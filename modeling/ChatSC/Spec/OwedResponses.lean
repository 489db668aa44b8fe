import ChatSC.ForStd.Reserve
import ChatSC.Native.ServerProcess
import ChatSC.Spec.HandlerPieces

/-!
# Responses that are still to be written

A thread that has read a request owes its client an ack, and one that has looked up a descriptor
owes it the delivery.  `owed` counts the bytes that all threads together owe to a descriptor.  A
thread takes on a response in these two places only, and `TakesOn` says when it may; everywhere else
it makes the calls for what it owes already (`owedBy_advance`).
-/

namespace ChatSC.Spec

open Native Reserve

/-! ## What is owed -/

/-- The bytes that the calls have still to write, of those that `counts` picks. -/
def leftToWrite (counts : WriteFull → Bool) (calls : List WriteFull) : Nat :=
  ((calls.filter counts).map fun call => sizeofChatResponse - call.total).sum

/-- The ack of the request in hand, when it goes to the descriptor. -/
def ackOwed (fd : Nat) (thread : ClientThread) : Nat :=
  if thread.session.clientFd = fd ∧ (inHand thread.pc).isSome then sizeofChatResponse else 0

/-- What a thread owes to a descriptor. -/
def owedBy (process : ServerProcess) (fd index : Nat) : Nat :=
  leftToWrite (·.fd = fd) (process.pending index) +
    (process.server.threads[index]?.map (ackOwed fd)).getD 0

/-- What all threads owe to a descriptor. -/
def owed (process : ServerProcess) (fd : Nat) : Nat :=
  total process.server.threads.length (owedBy process fd)

@[simp] theorem leftToWrite_nil (counts : WriteFull → Bool) : leftToWrite counts [] = 0 := rfl

theorem leftToWrite_cons (counts : WriteFull → Bool) (call : WriteFull) (calls : List WriteFull) :
    leftToWrite counts (call :: calls) =
      (if counts call then sizeofChatResponse - call.total else 0) + leftToWrite counts calls := by
  rw [leftToWrite, List.filter_cons]
  split
  · rfl
  · exact (Nat.zero_add _).symm

/-- A call counts for its own descriptor. -/
theorem leftToWrite_own (call : WriteFull) (calls : List WriteFull) :
    leftToWrite (·.fd = call.fd) (call :: calls) =
      sizeofChatResponse - call.total + leftToWrite (·.fd = call.fd) calls := by
  rw [leftToWrite_cons, if_pos (decide_eq_true rfl)]

@[simp] theorem leftToWrite_enter (counts : WriteFull → Bool) (write : Write) :
    leftToWrite counts [.enter write] =
      if counts (.enter write) then sizeofChatResponse else 0 := by
  rw [leftToWrite_cons]
  rfl

/-! ## The condition -/

/-- The descriptor that the next piece of a thread looks up for a delivery. -/
def lookedUp (server : ThreadedServer) (index : Nat) : Option Nat :=
  match server.threads[index]? with
  | some ⟨session, .handling request⟩ =>
    if request.requestType = RequestType.chatMessage.code ∧ chatRefused session request = none then
      getOnlineUserFd server.online request.peerUsernameStr
    else none
  | _ => none

/-- A response to the descriptor may be taken on: the connection is not broken, and it has room for
    the response beside all that is owed to it. -/
def TakesOn (room : Nat → Nat) (process : ServerProcess) (fd : Nat) : Prop :=
  ∀ peer ∈ holderOf process.server.threads fd, process.peer peer ≠ .broken ∧
    process.unread peer + owed process fd + sizeofChatResponse ≤ room peer

/-- Nothing is owed to a connection that has its descriptor. -/
def NothingOwed (process : ServerProcess) (index : Nat) : Prop :=
  ∀ thread ∈ process.server.threads[index]?, thread.pc.isOpen = true →
    owed process thread.session.clientFd = 0

/-- A step that leaves all threads with responses that they can write.  A response is only taken on
    for a connection that is not broken and has room for it, and a connection only breaks when
    nothing else is owed to it. -/
def Careful (room : Nat → Nat) (process : ServerProcess) : ProcessEvent → Prop
  | .hangUp _ | .take _ _ => True
  | .reset index => process.peer index = .closed → NothingOwed process index
  -- a number that was used before, to which a thread may still write
  | .thread (.accept fd) => owed process fd ≤ room process.server.threads.length
  | .thread (.read index none) => process.peer index = .reset → NothingOwed process index
  | .thread (.read index (some _)) => ∀ thread ∈ process.server.threads[index]?,
    TakesOn room process thread.session.clientFd
  | .thread (.advance index _ _) => ∀ fd ∈ lookedUp process.server index, TakesOn room process fd
  | .write index _ => ∀ call ∈ (process.pending index).head?,
    ∀ peer ∈ holderOf process.server.threads call.fd, process.peer peer = .reset →
      owed process call.fd ≤ sizeofChatResponse - call.total

instance (room : Nat → Nat) (process : ServerProcess) (fd : Nat) :
    Decidable (TakesOn room process fd) :=
  inferInstanceAs (Decidable (∀ peer ∈ holderOf process.server.threads fd, _ ∧ _))

instance (process : ServerProcess) (index : Nat) : Decidable (NothingOwed process index) :=
  inferInstanceAs (Decidable (∀ thread ∈ process.server.threads[index]?, _ → _))

instance (room : Nat → Nat) (process : ServerProcess) :
    (event : ProcessEvent) → Decidable (Careful room process event)
  | .hangUp _ | .take _ _ => inferInstanceAs (Decidable True)
  | .reset index => inferInstanceAs (Decidable (_ → NothingOwed process index))
  | .thread (.accept _) => inferInstanceAs (Decidable (_ ≤ _))
  | .thread (.read index none) => inferInstanceAs (Decidable (_ → NothingOwed process index))
  | .thread (.read index (some _)) => inferInstanceAs (Decidable (∀ thread ∈
    process.server.threads[index]?, TakesOn room process thread.session.clientFd))
  | .thread (.advance index _ _) => inferInstanceAs (Decidable
    (∀ fd ∈ lookedUp process.server index, TakesOn room process fd))
  | .write index _ => inferInstanceAs (Decidable (∀ call ∈ (process.pending index).head?,
    ∀ peer ∈ holderOf process.server.threads call.fd, process.peer peer = .reset →
      owed process call.fd ≤ sizeofChatResponse - call.total))

/-! ## What a piece of a thread takes on -/

section Pieces

variable {server : ThreadedServer} {session : ClientSession} {pc : ThreadPc} {access : FileAccess}
  {written : Bool} {next : ThreadStep}

/-- A connection keeps its descriptor. -/
theorem clientFd_advanceThread
    (h : advanceThread server ⟨session, pc⟩ access written = some next) :
    next.thread.session.clientFd = session.clientFd := by
  -- only a login and a logout write to the session, and the descriptor is not among their fields
  cases pc with
  | reading => cases h
  | handling request => cases firstPiece h <;> rfl
  | loginValidated request =>
    rcases registerOnlineUser_cases server.online request.usernameStr session.clientFd with
      ⟨-, heq⟩ | ⟨-, slot, -, heq⟩ <;>
      simp only [advanceThread, heq] at h <;> cases h <;> rfl
  | loginRegistered request => cases h; rfl
  | selecting request =>
    have hsame := sameLogin_selectOnlinePeer server.online session request
    cases h
    exact hsame.clientFd
  | delivering request peerFd holder => cases h; rfl
  | leaving => cases h; rfl
  | closing => cases h; rfl
  | ended => cases h

/-- Only a piece that looks a descriptor up goes on to deliver, and to this one. -/
theorem lookedUp_of_delivering {index peerFd : Nat} {request : RequestPtr} {holder : Option Nat}
    (hat : At server index session pc)
    (h : advanceThread server ⟨session, pc⟩ access written = some next)
    (hpc : next.thread.pc = .delivering request peerFd holder) :
    lookedUp server index = some peerFd := by
  unfold At at hat
  cases pc with
  | reading => cases h
  -- a message or a peer that is online
  | handling request' =>
    cases firstPiece h with
    | lookedUp htype hrefused hfd =>
      cases hpc
      simp only [lookedUp, hat, htype, hrefused, and_self, if_true, hfd]
    | _ => cases hpc
  -- a login goes on to its registration
  | loginValidated request' =>
    rcases registerOnlineUser_cases server.online request'.usernameStr session.clientFd with
      ⟨-, heq⟩ | ⟨-, slot, -, heq⟩ <;>
      simp only [advanceThread, heq] at h <;> cases h <;> cases hpc
  | loginRegistered request' => cases h; cases hpc
  | selecting request' => cases h; cases hpc
  | delivering request' peerFd' holder' => cases h; cases hpc
  | leaving => cases h; cases hpc
  | closing => cases h; cases hpc
  | ended => cases h

/-- The calls that a thread makes behind a piece: its delivery, the ack with which the handler ends,
    or none. -/
inductive PieceCalls (session : ClientSession) (pc : ThreadPc) (next : ThreadStep) : Prop
  | delivers {request peerFd holder} (hhand : (inHand pc).isSome = true)
      (hpc : next.thread.pc = .delivering request peerFd holder)
      (hcalls : callsBehind (some next.thread) next.writes =
        [.enter ⟨peerFd, chatDelivery next.thread.session request⟩]) :
      PieceCalls session pc next
  | answers {ack} (hhand : (inHand pc).isSome = true) (hdone : inHand next.thread.pc = none)
      (hfd : ack.clientFd = session.clientFd)
      (hcalls : callsBehind (some next.thread) next.writes = [.enter ack]) :
      PieceCalls session pc next
  | quiet (hhand : (inHand next.thread.pc).isSome = (inHand pc).isSome)
      (hcalls : callsBehind (some next.thread) next.writes = []) :
      PieceCalls session pc next

/-- A thread that does not deliver makes its acks. -/
theorem callsBehind_acks (thread : ClientThread) (writes : List Write)
    (hpc : ∀ request peerFd holder, thread.pc ≠ .delivering request peerFd holder) :
    callsBehind (some thread) writes = (writes.filter IsAck).map .enter := by
  obtain ⟨session, pc⟩ := thread
  cases pc with
  | delivering request peerFd holder => exact absurd rfl (hpc request peerFd holder)
  | _ => rfl

/-- A piece brings the thread nearer to its end, and makes one call at most. -/
theorem pieceCalls (hfirst : LogoutFirst pc)
    (h : advanceThread server ⟨session, pc⟩ access written = some next) :
    PieceCalls session pc next ∧ stepsLeft next.thread.pc < stepsLeft pc ∧
      LogoutFirst next.thread.pc := by
  cases hhand : inHand pc with
  | some request =>
    have hsome : (inHand pc).isSome = true := by rw [hhand]; rfl
    have hfour : 4 ≤ stepsLeft pc := by
      cases pc <;> first | exact Nat.le_refl 4 | exact Nat.le_succ 4 | exact Nat.le_add_right 4 2 |
        cases hhand
    cases handlerPiece hhand hfirst h with
    | goesOn hhand' hfirst' hsteps hwrites =>
      refine ⟨?_, hsteps, hfirst'⟩
      obtain ⟨userDb, online, ⟨session', pc'⟩, writes⟩ := next
      cases pc' with
      | delivering request' peerFd holder => exact .delivers hsome rfl rfl
      | _ =>
        refine .quiet (by rw [hhand', hhand]) ?_
        rw [hwrites]
        rfl
    | reads ack hpc hto hwrites =>
      refine ⟨.answers hsome (by rw [hpc]; rfl) hto.clientFd ?_, by rw [hpc]; exact hfour,
        by rw [hpc]; nofun⟩
      rw [callsBehind_acks _ _ (by rw [hpc]; nofun), hwrites]
      rfl
    | leaves ack hpc hto hwrites =>
      refine ⟨.answers hsome (by rw [hpc]; rfl) hto.clientFd ?_,
        by rw [hpc]; exact Nat.lt_of_succ_lt hfour, by rw [hpc]; nofun⟩
      rw [callsBehind_acks _ _ (by rw [hpc]; nofun), hwrites]
      rfl
  | none =>
    -- behind the loop nothing is written
    have hleft : HasLeft pc := by
      cases pc with
      | reading => cases h
      | leaving => exact .inl rfl
      | closing => exact .inr (.inl rfl)
      | ended => exact .inr (.inr rfl)
      | _ => cases hhand
    obtain ⟨hwrites, hsteps, hleft'⟩ := advanceThread_left hleft h
    have hnone : inHand next.thread.pc = none := by
      rcases hleft' with hpc | hpc | hpc <;> rw [hpc] <;> rfl
    refine ⟨.quiet (by rw [hnone, hhand]) ?_, hsteps, ?_⟩
    · rw [callsBehind_acks _ _ (fun _ _ _ hpc => by rw [hpc] at hnone; cases hnone), hwrites]
      rfl
    · rcases hleft' with hpc | hpc | hpc <;> rw [hpc] <;> nofun

end Pieces

/-! ## How the claims change -/

section Owed

variable (process process' : ServerProcess) {index : Nat} {session : ClientSession} {pc : ThreadPc}

theorem owedBy_of_at (fd : Nat) (hat : At process.server index session pc) :
    owedBy process fd index =
      leftToWrite (·.fd = fd) (process.pending index) + ackOwed fd ⟨session, pc⟩ := by
  unfold At at hat
  rw [owedBy, hat]
  rfl

/-- What a thread owes depends on the thread and its calls. -/
theorem owedBy_congr (hthread : process'.server.threads[index]? = process.server.threads[index]?)
    (hpending : process'.pending index = process.pending index) (fd : Nat) :
    owedBy process' fd index = owedBy process fd index := by
  rw [owedBy, owedBy, hthread, hpending]

theorem ackOwed_of_none (fd : Nat) (thread : ClientThread) (h : inHand thread.pc = none) :
    ackOwed fd thread = 0 := by
  rw [ackOwed, h]
  simp

theorem ackOwed_of_some (fd : Nat) (thread : ClientThread) (h : (inHand thread.pc).isSome = true) :
    ackOwed fd thread = if thread.session.clientFd = fd then sizeofChatResponse else 0 := by
  simp only [ackOwed, h, and_true]

/-- A thread that moves on by a piece owes what it owed, and the delivery that it takes on. -/
theorem owedBy_advance {access : FileAccess} {written : Bool} {next : ThreadStep}
    (hat : At process.server index session pc) (hpending : process.pending index = [])
    (hfirst : LogoutFirst pc)
    (h : advanceThread process.server ⟨session, pc⟩ access written = some next)
    (hat' : process'.server.threads[index]? = some next.thread)
    (hpending' : process'.pending index = callsBehind (some next.thread) next.writes) :
    (∀ fd, owedBy process' fd index = owedBy process fd index) ∨
      ∃ peerFd, lookedUp process.server index = some peerFd ∧ ∀ fd, owedBy process' fd index =
        owedBy process fd index + if peerFd = fd then sizeofChatResponse else 0 := by
  have hfd := clientFd_advanceThread h
  have hbefore : ∀ fd, owedBy process fd index = ackOwed fd ⟨session, pc⟩ := by
    intro fd
    rw [owedBy_of_at process fd hat, hpending, leftToWrite_nil, Nat.zero_add]
  have hafter : ∀ fd, owedBy process' fd index =
      leftToWrite (·.fd = fd) (callsBehind (some next.thread) next.writes) +
        ackOwed fd next.thread := by
    intro fd
    rw [owedBy, hat', hpending']
    rfl
  cases (pieceCalls hfirst h).1 with
  | @delivers request peerFd holder hhand hpc hcalls =>
    -- the ack is still owed, and the delivery is new
    refine .inr ⟨peerFd, lookedUp_of_delivering hat h hpc, fun fd => ?_⟩
    have hhand' : (inHand next.thread.pc).isSome = true := by rw [hpc]; rfl
    rw [hafter, hbefore, hcalls, leftToWrite_enter, ackOwed_of_some fd next.thread hhand',
      ackOwed_of_some fd ⟨session, pc⟩ hhand, hfd, Nat.add_comm]
    by_cases hsame : peerFd = fd <;> simp only [WriteFull.enter, hsame, decide_true, decide_false,
      if_true, Bool.false_eq_true, if_false]
  | @answers ack hhand hdone hack hcalls =>
    -- the ack that was owed is the call
    refine .inl fun fd => ?_
    rw [hafter, hbefore, hcalls, leftToWrite_enter, ackOwed_of_none fd next.thread hdone,
      ackOwed_of_some fd ⟨session, pc⟩ hhand, Nat.add_zero]
    by_cases hsame : session.clientFd = fd <;> simp only [WriteFull.enter, hack, hsame,
      decide_true, decide_false, if_true, Bool.false_eq_true, if_false]
  | quiet hhand hcalls =>
    refine .inl fun fd => ?_
    rw [hafter, hbefore, hcalls, leftToWrite_nil, Nat.zero_add, ackOwed, ackOwed, hhand, hfd]

end Owed

end ChatSC.Spec
