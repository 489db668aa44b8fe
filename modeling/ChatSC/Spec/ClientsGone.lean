import ChatSC.Spec.ServingInvariant

/-!
# Clients that go away

`handle_chat_request` answers a delivery whose `write_full` has failed with `STATUS_PEER_OFFLINE`,
and `send_ack` lets the next `read_full` find out that the client is gone.  `KeepsServing` says that
the process gets there: it runs, accepts connections, and none of its threads is held up.

A `write` to a connection that is broken ends the process instead, and one to a connection that is
full holds its thread up.  Neither is decided at the `write`: `keepsServing_of_run` shows that a
server that only takes on responses for connections that have room and are not broken, and whose
connections only break when nothing else is owed to them, keeps serving.
-/

namespace ChatSC.Spec

open Native Reserve

/-! ## What is promised to the clients -/

/-- A step of a thread on its way to the next `read_full`. -/
def OfThread (index : Nat) : ProcessEvent → Prop
  | .write i _ | .thread (.advance i _ _) => i = index
  | _ => False

/-- The thread has a call to make, a request in hand, or its end before it. -/
def Busy (process : ServerProcess) (index : Nat) (pc : ThreadPc) : Prop :=
  process.pending index ≠ [] ∨ pc ≠ .reading ∧ pc ≠ .ended

/-- What a thread has still to do: the bytes of its calls, and its way to the end. -/
def dutyLeft (process : ServerProcess) (index : Nat) : Nat :=
  leftToWrite (fun _ => true) (process.pending index) +
    (sizeofChatResponse + 1) * (process.server.threads[index]?.map (stepsLeft ·.pc)).getD 0

/-- The thread of a connection is served: as long as it is busy it can take a step, each of its
    steps leaves less to do, and nobody else gives it more; it reads the next request, answers a
    delivery that could not be written as such, and notices a client that is not there any more at
    the next `read`. -/
structure Served (room : Nat → Nat) (process : ServerProcess) (index : Nat)
    (thread : ClientThread) : Prop where
  able : Busy process index thread.pc →
    ∃ event, OfThread index event ∧ (processStep room process event).isSome = true
  less : ∀ event process', OfThread index event → processStep room process event = some process' →
    dutyLeft process' index < dutyLeft process index
  steady : ∀ event process', ¬ OfThread index event →
    (∀ request, event ≠ .thread (.read index (some request))) →
      processStep room process event = some process' →
        dutyLeft process' index ≤ dutyLeft process index
  reads : process.pending index = [] → thread.pc = .reading →
    ∀ request, (processStep room process (.thread (.read index (some request)))).isSome = true
  offline : process.pending index = [] → process.result index = some false →
    ∀ request peerFd holder, thread.pc = .delivering request peerFd holder → ∀ access,
      ∃ process', processStep room process (.thread (.advance index access false)) = some process' ∧
        process'.pending index = [.enter (chatAck thread.session request false)]
  notices : process.pending index = [] → thread.pc = .reading → process.peer index ≠ .there →
    (processStep room process (.thread (.read index none))).isSome = true

/-- The process runs, accepts connections, and serves every one that it has. -/
structure KeepsServing (room : Nat → Nat) (process : ServerProcess) : Prop where
  running : process.running = true
  accepts : ∀ fd, holderOf process.server.threads fd = none →
    (processStep room process (.thread (.accept fd))).isSome = true
  serves : ∀ index thread, process.server.threads[index]? = some thread →
    Served room process index thread

section Serving

variable {room : Nat → Nat} {process process' : ServerProcess} {event : ProcessEvent} {index : Nat}
  {thread : ClientThread}

/-! ## A thread can take its next step -/

/-- A thread that is not before a `read` and has not ended has a next piece. -/
theorem isSome_nextPiece (server : ThreadedServer) (hreading : thread.pc ≠ .reading)
    (hended : thread.pc ≠ .ended) (access : FileAccess) (written : Bool) :
    (advanceThread server thread access written).isSome = true := by
  obtain ⟨session, pc⟩ := thread
  cases hhand : (inHand pc).isSome with
  | true => exact isSome_advanceThread server session hhand access written
  | false =>
    cases pc with
    | reading => exact absurd rfl hreading
    | ended => exact absurd rfl hended
    | leaving => rfl
    | closing => rfl
    | _ => cases hhand

/-- A step of a thread is one of the process, when the thread is ready. -/
theorem processStep_thread (hrunning : process.running = true) {step : ThreadEvent}
    (hready : process.ready step = true) :
    processStep room process (.thread step) =
      (threadedStep process.server step).map fun next => process.after step next.1 next.2 := by
  simp only [processStep, hrunning, hready, if_true]
  cases threadedStep process.server step <;> rfl

/-- A call that is under way can go on: the connection has room for a byte of it. -/
theorem ServingInv.isSome_write (h : ServingInv room process) {call : WriteFull}
    {later : List WriteFull} (hpending : process.pending index = call :: later) :
    (processStep room process (.write index 1)).isSome = true := by
  have hshort := h.short index call (hpending ▸ List.mem_cons_self)
  simp only [processStep, h.running, if_true, hpending]
  cases hholder : holderOf process.server.threads call.fd with
  | none => rfl
  | some peer =>
    -- what is left of the call is a claim
    have hroom : process.unread peer < room peer :=
      (h.takesAll call.fd peer hholder).fits.lt_of_claim (h.lt_length hpending)
        (h.owedBy_pos hpending)
    have htakes : 0 < 1 ∧ 1 ≤ sizeofChatResponse - call.total ∧
        process.unread peer + 1 ≤ room peer := by omega
    simp only [ServerProcess.writeTo]
    cases process.peer peer with
    | there => rw [if_pos htakes]; rfl
    | closed => rw [if_pos htakes]; rfl
    | reset => rfl
    | broken => rfl

/-- A thread without a call goes on with its request, or with leaving. -/
theorem isSome_advance (hrunning : process.running = true)
    (hthread : process.server.threads[index]? = some thread) (hpending : process.pending index = [])
    (hreading : thread.pc ≠ .reading) (hended : thread.pc ≠ .ended) (access : FileAccess) :
    (processStep room process
      (.thread (.advance index access ((process.result index).getD true)))).isSome = true := by
  have hready : process.ready (.advance index access ((process.result index).getD true)) = true := by
    rw [ServerProcess.ready, hpending]
    cases process.result index <;> simp
  obtain ⟨next, hnext⟩ := Option.isSome_iff_exists.mp
    (isSome_nextPiece process.server hreading hended access ((process.result index).getD true))
  rw [processStep_thread hrunning hready, Option.isSome_map]
  simp only [threadedStep, hthread, hnext]
  rfl

/-- A thread before its `read` can read what comes. -/
theorem isSome_read (hrunning : process.running = true)
    (hthread : process.server.threads[index]? = some thread) (hpc : thread.pc = .reading)
    {request : Option RequestPtr} (hready : process.ready (.read index request) = true) :
    (processStep room process (.thread (.read index request))).isSome = true := by
  obtain ⟨session, pc⟩ := thread
  obtain rfl : pc = .reading := hpc
  rw [processStep_thread hrunning hready, Option.isSome_map]
  simp only [threadedStep, hthread]
  rfl

/-! ## A thread gets done -/

theorem dutyLeft_congr (hthread : process'.server.threads[index]? = process.server.threads[index]?)
    (hpending : process'.pending index = process.pending index) :
    dutyLeft process' index = dutyLeft process index := by
  rw [dutyLeft, dutyLeft, hthread, hpending]

/-- A call that returns leaves less to do. -/
theorem ServingInv.dutyLeft_returns (h : ServingInv room process) {call : WriteFull}
    {later : List WriteFull} (hpending : process.pending index = call :: later)
    (hserver : process'.server = process.server) (hlater : process'.pending index = later) :
    dutyLeft process' index < dutyLeft process index := by
  have hshort := h.short index call (hpending ▸ List.mem_cons_self)
  rw [dutyLeft, dutyLeft, hserver, hlater, hpending, leftToWrite_cons, if_pos rfl]
  omega

/-- A piece makes one call at most, and brings the thread nearer to its end. -/
theorem dutyLeft_advanced {session : ClientSession} {pc : ThreadPc} {access : FileAccess}
    {written : Bool} {next : ThreadStep} (hfirst : LogoutFirst pc)
    (hat : At process.server index session pc)
    (hadvance : advanceThread process.server ⟨session, pc⟩ access written = some next)
    (hat' : process'.server.threads[index]? = some next.thread)
    (hpending' : process'.pending index = callsBehind (some next.thread) next.writes) :
    dutyLeft process' index < dutyLeft process index := by
  unfold At at hat
  -- at most one response to write, and at least one piece less
  obtain ⟨hcalls, hsteps, -⟩ := pieceCalls hfirst hadvance
  have hone : leftToWrite (fun _ => true) (callsBehind (some next.thread) next.writes) ≤
      sizeofChatResponse := by
    cases hcalls with
    | delivers _ _ hcalls => rw [hcalls]; exact Nat.le_refl _
    | answers _ _ _ hcalls => rw [hcalls]; exact Nat.le_refl _
    | quiet _ hcalls => rw [hcalls]; exact Nat.zero_le _
  have hpaid : (sizeofChatResponse + 1) * (stepsLeft next.thread.pc + 1) ≤
      (sizeofChatResponse + 1) * stepsLeft pc := Nat.mul_le_mul_left _ hsteps
  rw [Nat.mul_succ] at hpaid
  rw [dutyLeft, dutyLeft, hat, hat', hpending']
  simp only [Option.map_some, Option.getD_some]
  omega

/-- A step of the thread leaves less to do. -/
theorem ServingInv.less (h : ServingInv room process) (hof : OfThread index event)
    (hstep : processStep room process event = some process') :
    dutyLeft process' index < dutyLeft process index := by
  cases (processEffect_of_step hstep).2 with
  | @advanced _ access written session pc next server hat hpending hadvance hnext hthreads =>
    obtain rfl := hof
    have hlt := (List.getElem?_eq_some_iff.mp hat).1
    refine dutyLeft_advanced (h.first _ session pc hat) hat hadvance ?_ (Function.update_self ..)
    show server.threads[_]? = _
    rw [hthreads, List.getElem?_set_self hlt]
  | noDescriptor hpending =>
    obtain rfl := hof
    exact h.dutyLeft_returns hpending rfl (Function.update_self ..)
  | refused hpending =>
    obtain rfl := hof
    exact h.dutyLeft_returns hpending rfl (Function.update_self ..)
  | @wrote _ count call later peer hpending _ _ hpos hcount =>
    obtain rfl := hof
    have hshort := h.short _ call (hpending ▸ List.mem_cons_self)
    have hleft := leftToWrite_writeSome (fun _ => true) peer hpending (fun _ => rfl) hshort hcount
    rw [if_pos rfl] at hleft
    rw [dutyLeft, dutyLeft, (writeSome_rest ..).1]
    omega
  | signalled hpending hholder hpeer =>
    -- nothing is owed to a broken connection
    have hzero := (h.takesAll _ _ hholder).unbroken hpeer
    have hpos := h.owed_pos hpending
    omega
  | hungUp | reset | brokeOff | took | accepted | requested | readFailed => cases hof

/-- Only a request gives a thread more to do. -/
theorem dutyLeft_of_other (hthread : process.server.threads[index]? = some thread)
    (hof : ¬ OfThread index event)
    (hread : ∀ request, event ≠ .thread (.read index (some request)))
    (hstep : processStep room process event = some process') :
    dutyLeft process' index ≤ dutyLeft process index := by
  have hlt : index < process.server.threads.length := (List.getElem?_eq_some_iff.mp hthread).1
  cases (processEffect_of_step hstep).2 with
  -- the clients change nothing that the thread has to do
  | hungUp | reset | brokeOff | took | signalled => exact Nat.le_of_eq (dutyLeft_congr rfl rfl)
  -- a new thread stands behind the others
  | accepted hnext hthreads =>
    refine Nat.le_of_eq (dutyLeft_congr ?_ rfl)
    simp only [hthreads]
    rw [List.getElem?_append_left hlt]
  -- a request gives work to the thread that read it, which is another one
  | @requested i request session server hat hpending hnext hthreads =>
    have hne : i ≠ index := fun heq => hread request (by rw [heq])
    refine Nat.le_of_eq (dutyLeft_congr ?_ rfl)
    simp only [hthreads]
    rw [List.getElem?_set_ne hne]
  | @readFailed i session server hat hpending hnext hthreads =>
    by_cases hne : i = index
    · -- from `read_full` the thread goes nearer to its end
      subst hne
      unfold At at hat
      rw [dutyLeft, dutyLeft, hat]
      simp only [ServerProcess.setPeer, hthreads, List.getElem?_set_self hlt, Option.map_some,
        Option.getD_some]
      exact Nat.add_le_add_left (Nat.mul_le_mul_left _ (show 2 ≤ 3 by decide)) _
    · refine Nat.le_of_eq (dutyLeft_congr ?_ rfl)
      simp only [ServerProcess.setPeer, hthreads]
      rw [List.getElem?_set_ne hne]
  -- another thread has moved or written
  | @advanced i access written session pc next server hat hpending hadvance hnext hthreads =>
    refine Nat.le_of_eq (dutyLeft_congr ?_ (Function.update_of_ne (Ne.symm hof) ..))
    simp only [hthreads]
    rw [List.getElem?_set_ne hof]
  | noDescriptor => exact Nat.le_of_eq (dutyLeft_congr rfl (Function.update_of_ne (Ne.symm hof) ..))
  | refused => exact Nat.le_of_eq (dutyLeft_congr rfl (Function.update_of_ne (Ne.symm hof) ..))
  | wrote =>
    obtain ⟨hserver, -, -, -, hothers⟩ := writeSome_rest process _ _ _ _ _
    exact Nat.le_of_eq (dutyLeft_congr (by rw [hserver]) (hothers index (Ne.symm hof)))

/-! ## A run -/

/-- A process that owes nothing it cannot write serves every connection. -/
theorem ServingInv.served (h : ServingInv room process)
    (hthread : process.server.threads[index]? = some thread) :
    Served room process index thread where
  able := by
    intro hbusy
    cases hpending : process.pending index with
    | cons call later => exact ⟨.write index 1, rfl, h.isSome_write hpending⟩
    | nil =>
      -- no call: a request in hand, or the way out
      obtain ⟨hreading, hended⟩ := hbusy.resolve_left (not_not_intro hpending)
      exact ⟨.thread (.advance index .all _), rfl,
        isSome_advance h.running hthread hpending hreading hended .all⟩
  less := fun _ _ hof hstep => h.less hof hstep
  steady := fun _ _ hof hread hstep => dutyLeft_of_other hthread hof hread hstep
  reads := by
    intro hpending hpc request
    refine isSome_read h.running hthread hpc ?_
    rw [ServerProcess.ready, hpending]
    rfl
  offline := by
    intro hpending hresult request peerFd holder hpc access
    obtain ⟨session, pc⟩ := thread
    obtain rfl : pc = .delivering request peerFd holder := hpc
    have hready : process.ready (.advance index access false) = true := by
      rw [ServerProcess.ready, hpending, hresult]
      rfl
    have hlt : index < process.server.threads.length := (List.getElem?_eq_some_iff.mp hthread).1
    rw [processStep_thread h.running hready]
    simp only [threadedStep, hthread, advanceThread]
    refine ⟨_, rfl, ?_⟩
    -- the delivery was made before, so only the ack is left
    simp only [ServerProcess.after, Function.update_self]
    rw [List.getElem?_set_self hlt]
    rfl
  notices := by
    intro hpending hpc hpeer
    refine isSome_read h.running hthread hpc ?_
    rw [ServerProcess.ready, hpending, decide_eq_true hpeer]
    rfl

theorem ServingInv.keepsServing (h : ServingInv room process) : KeepsServing room process where
  running := h.running
  accepts := by
    intro fd hfree
    rw [processStep_thread h.running rfl, Option.isSome_map]
    simp only [threadedStep, hfree]
    rfl
  serves := fun _ _ hthread => h.served hthread

/-- A thread that writes to a full connection is held up as long as the client does not read. -/
theorem heldUp_of_full {call : WriteFull} {later : List WriteFull} {peer : Nat}
    (hpending : process.pending index = call :: later)
    (hholder : holderOf process.server.threads call.fd = some peer)
    (hpeer : process.peer peer = .there) (hfull : room peer ≤ process.unread peer)
    (hof : OfThread index event) : processStep room process event = none := by
  unfold processStep
  split
  · -- a `write` finds no room for a byte
    cases event with
    | write i count =>
      obtain rfl : i = index := hof
      have hnot : ¬ (0 < count ∧ count ≤ sizeofChatResponse - call.total ∧
          process.unread peer + count ≤ room peer) := by omega
      -- and the thread cannot move while its call is pending
      simp only [hpending, hholder, ServerProcess.writeTo, hpeer, if_neg hnot]
    | thread step =>
      cases step with
      | advance i access written =>
        obtain rfl : i = index := hof
        have hready : process.ready (.advance i access written) = false := by
          rw [ServerProcess.ready, hpending]
          rfl
        simp only [hready, Bool.false_eq_true, if_false]
      | accept | read => cases hof
    | hangUp | reset | take => cases hof
  · rfl

end Serving

/-- **A server that only takes on responses for connections that have room and are not broken, and
    whose connections only break when nothing else is owed to them, keeps serving.** -/
theorem keepsServing_of_run {room : Nat → Nat} {userDb : List UInt8} {events : List ProcessEvent}
    {process : ServerProcess}
    (hok : Transition.Guarded (processStep room) (Careful room) (.start userDb) events)
    (hrun : Transition.run (processStep room) (.start userDb) events = some process) :
    KeepsServing room process := by
  have hinv : ServingInv room process := Transition.run_invariant_of_guarded
    (fun _ _ _ h hok hstep => h.step hok hstep) (servingInv_start room userDb) hok hrun
  exact hinv.keepsServing

/-! ## A delivery to a client that has just gone -/

/-- A connection logs in, and its ack is written. -/
def logsInAndReads (index fd : Nat) (username : String) : List ProcessEvent :=
  [.thread (.accept fd), .thread (.read index (some (loginAs username "ok"))),
    .thread (.advance index .all true), .thread (.advance index .all true),
    .thread (.advance index .all true), .write index sizeofChatResponse]

/-- `amy` and `bob` are logged in, and `bob`'s descriptor is looked up for a message of `amy`. -/
def messageToBob : List ProcessEvent :=
  logsInAndReads 0 4 "amy" ++ logsInAndReads 1 5 "bob" ++
    [.thread (.read 0 (some (chatTo "bob" "hi"))), .thread (.advance 0 .all true)]

/-- `bob` goes away before the `write`; it fails, `amy` is told that he is offline, and his thread
    notices. -/
def bobOffline : List ProcessEvent :=
  messageToBob ++
    [.reset 1, .write 0 sizeofChatResponse, .thread (.advance 0 .all false), .write 0 100,
      .take 0 600, .write 0 488, .thread (.read 1 none), .thread (.advance 1 .all true)]

theorem keepsServing_bobOffline :
    ∃ process, Transition.run (processStep fun _ => 4096) (.start amyBobDb) bobOffline =
      some process ∧ KeepsServing (fun _ => 4096) process := by
  have hsome : (Transition.run (processStep fun _ => 4096) (.start amyBobDb) bobOffline).isSome =
      true := by
    decide +kernel
  obtain ⟨process, hprocess⟩ := Option.isSome_iff_exists.mp hsome
  exact ⟨process, hprocess, keepsServing_of_run (by decide +kernel) hprocess⟩

/-- `bob`'s connection is reset between the lookup and the `write`, and his own thread is told: the
    `write` ends the process.  And when `bob` does not read, his connection fills up, and `amy`'s
    thread is held up. -/
theorem clients_stop_server :
    (∃ process, Transition.run (processStep fun _ => 4096) (.start amyBobDb)
        (messageToBob ++ [.reset 1, .thread (.read 1 none), .write 0 sizeofChatResponse]) =
      some process ∧ ¬ KeepsServing (fun _ => 4096) process) ∧
    ∃ process, Transition.run (processStep fun _ => 1000) (.start amyBobDb)
        (messageToBob ++ [.write 0 412]) =
      some process ∧ ¬ KeepsServing (fun _ => 1000) process := by
  constructor
  · -- the `write` after the reset ends the process
    have hends : (Transition.run (processStep fun _ => 4096) (.start amyBobDb)
        (messageToBob ++ [.reset 1, .thread (.read 1 none), .write 0 sizeofChatResponse])).map
          ServerProcess.running = some false := by
      decide +kernel
    obtain ⟨process, hrun, hrunning⟩ := Option.map_eq_some_iff.mp hends
    exact ⟨process, hrun, fun h => absurd (h.running.symm.trans hrunning) (by decide)⟩
  · -- the connection takes 412 bytes more and is full
    have hfull : (Transition.run (processStep fun _ => 1000) (.start amyBobDb)
        (messageToBob ++ [.write 0 412])).map (fun process =>
          ((process.pending 0).map WriteFull.fd, holderOf process.server.threads 5,
            process.peer 1, process.unread 1, process.server.threads.length)) =
        some ([5], some 1, .there, 1000, 2) := by
      decide +kernel
    obtain ⟨process, hrun, hstate⟩ := Option.map_eq_some_iff.mp hfull
    simp only [Prod.mk.injEq] at hstate
    obtain ⟨hpending, hholder, hpeer, hunread, hlength⟩ := hstate
    refine ⟨process, hrun, fun h => ?_⟩
    obtain ⟨call, hcalls, hfd⟩ := List.map_eq_singleton_iff.mp hpending
    have hthread := List.getElem?_eq_getElem (show 0 < process.server.threads.length by omega)
    -- the thread would have to be able to go on, and it is not
    obtain ⟨event, hof, hable⟩ :=
      (h.serves 0 _ hthread).able (.inl (by rw [hcalls]; exact List.cons_ne_nil _ _))
    rw [heldUp_of_full hcalls (hfd ▸ hholder) hpeer hunread.ge hof] at hable
    cases hable

end ChatSC.Spec
