import ChatSC.Spec.Framing
import ChatSC.Spec.OwedResponses

/-!
# The invariant of a serving process

`ProcessEffect` lists what a step can do to the process.  `ServingInv` says that the process runs
and that every connection takes all that is owed to it; a careful step keeps it
(`ServingInv.step`).  Only a `write` to a broken connection ends the process, and in a careful run
nothing is owed to one.
-/

namespace ChatSC.Spec

open Native Reserve

/-! ## What a step can do -/

/-- All that a step can do to the process. -/
inductive ProcessEffect (room : Nat → Nat) (process : ServerProcess) :
    ProcessEvent → ServerProcess → Prop
  | hungUp {index} (hlt : index < process.server.threads.length) :
      ProcessEffect room process (.hangUp index) (process.setPeer index .closed)
  | reset {index} (hlt : index < process.server.threads.length) :
      ProcessEffect room process (.reset index) (process.setPeer index .reset)
  | brokeOff {index} (hlt : index < process.server.threads.length)
      (hpeer : process.peer index = .closed) :
      ProcessEffect room process (.reset index) (process.setPeer index .broken)
  | took {index count} (hpos : 0 < count) (hcount : count ≤ process.unread index) :
      ProcessEffect room process (.take index count) { process with
        unread := Function.update process.unread index (process.unread index - count) }
  | accepted {fd server} (hnext : nextThreaded process.server (.accept fd) = some server)
      (hthreads : server.threads = process.server.threads ++ [⟨.fresh fd, .reading⟩]) :
      ProcessEffect room process (.thread (.accept fd)) { process with server := server }
  | requested {index request session server} (hat : At process.server index session .reading)
      (hpending : process.pending index = [])
      (hnext : nextThreaded process.server (.read index (some request)) = some server)
      (hthreads : server.threads = process.server.threads.set index ⟨session, .handling request⟩) :
      ProcessEffect room process (.thread (.read index (some request)))
        { process with server := server }
  | readFailed {index session server} (hat : At process.server index session .reading)
      (hpending : process.pending index = [])
      (hnext : nextThreaded process.server (.read index none) = some server)
      (hthreads : server.threads = process.server.threads.set index ⟨session, .leaving⟩) :
      ProcessEffect room process (.thread (.read index none))
        (ServerProcess.setPeer { process with server := server } index (process.peer index).report)
  | advanced {index access written session pc next server}
      (hat : At process.server index session pc)
      (hpending : process.pending index = [])
      (hadvance : advanceThread process.server ⟨session, pc⟩ access written = some next)
      (hnext : nextThreaded process.server (.advance index access written) = some server)
      (hthreads : server.threads = process.server.threads.set index next.thread) :
      ProcessEffect room process (.thread (.advance index access written)) { process with
        server := server
        pending := Function.update process.pending index
          (callsBehind (some next.thread) next.writes)
        result := Function.update process.result index none }
  | noDescriptor {index count call later} (hpending : process.pending index = call :: later) :
      ProcessEffect room process (.write index count) (process.returns index later false)
  | wrote {index count call later peer} (hpending : process.pending index = call :: later)
      (hholder : holderOf process.server.threads call.fd = some peer)
      (hpeer : process.peer peer ≠ .broken) (hpos : 0 < count)
      (hcount : count ≤ sizeofChatResponse - call.total) :
      ProcessEffect room process (.write index count)
        (process.writeSome index call later peer count)
  | refused {index count call later peer} (hpending : process.pending index = call :: later)
      (hholder : holderOf process.server.threads call.fd = some peer)
      (hpeer : process.peer peer = .reset) :
      ProcessEffect room process (.write index count)
        ((process.setPeer peer .broken).returns index later false)
  | signalled {index count call later peer} (hpending : process.pending index = call :: later)
      (hholder : holderOf process.server.threads call.fd = some peer)
      (hpeer : process.peer peer = .broken) :
      ProcessEffect room process (.write index count) { process with running := false }

section Effect

variable {room : Nat → Nat} {process process' : ServerProcess} {event : ProcessEvent}

/-- Every step of a thread has one of the effects. -/
theorem processEffect_thread {step : ThreadEvent} (hready : process.ready step = true)
    {server : ThreadedServer} {writes : List Write}
    (hstep : threadedStep process.server step = some (server, writes)) :
    ProcessEffect room process (.thread step) (process.after step server writes) := by
  have hnext := nextThreaded_of_step hstep
  cases step with
  | accept fd =>
    obtain ⟨-, -, rfl⟩ := threadedStep_accept hstep
    exact .accepted hnext rfl
  | read index request =>
    -- what was read tells whether the thread goes on or has to leave
    obtain ⟨session, hat, -, rfl⟩ := threadedStep_read hstep
    cases request with
    | some request => exact .requested hat (List.isEmpty_iff.mp hready) hnext rfl
    | none =>
      simp only [ServerProcess.ready, Bool.and_eq_true, List.isEmpty_iff] at hready
      exact .readFailed hat hready.1 hnext rfl
  | advance index access written =>
    -- one piece of the code, with the calls of `write_full` that it stands before
    obtain ⟨session, pc, next, hat, hadvance, rfl, rfl⟩ := threadedStep_advance hstep
    simp only [ServerProcess.ready, Bool.and_eq_true, List.isEmpty_iff] at hready
    have hlt : index < process.server.threads.length := (List.getElem?_eq_some_iff.mp hat).1
    have heffect : ProcessEffect room process _ _ := .advanced hat hready.1 hadvance hnext rfl
    simp only [ServerProcess.after, List.getElem?_set_self hlt]
    exact heffect

/-- Every step has one of the effects, and only a running process takes one. -/
theorem processEffect_of_step (h : processStep room process event = some process') :
    process.running = true ∧ ProcessEffect room process event process' := by
  by_cases hrunning : process.running = true
  · refine ⟨hrunning, ?_⟩
    unfold processStep at h
    rw [if_pos hrunning] at h
    cases event with
    | hangUp index =>
      simp only at h
      split at h
      · rename_i hup
        cases h
        exact .hungUp hup.1
      · cases h
    | reset index =>
      simp only at h
      split at h
      · rename_i hlt
        split at h <;> cases h
        · exact .reset hlt
        · rename_i hpeer
          exact .brokeOff hlt hpeer
      · cases h
    | take index count =>
      simp only at h
      split at h
      · rename_i htake
        cases h
        exact .took htake.2.1 htake.2.2
      · cases h
    | thread step =>
      simp only at h
      split at h
      · rename_i hready
        split at h
        · cases h
        · rename_i server writes hstep
          cases h
          exact processEffect_thread hready hstep
      · cases h
    | write index count =>
      simp only at h
      split at h
      · cases h
      · rename_i call later hpending
        split at h
        · cases h
          exact .noDescriptor hpending
        · rename_i peer hholder
          unfold ServerProcess.writeTo at h
          -- the kernel takes bytes, reports the reset, or raises the signal
          split at h
          · rename_i hpeer
            split at h
            · rename_i hroom
              cases h
              exact .wrote hpending hholder (by rw [hpeer]; nofun) hroom.1 hroom.2.1
            · cases h
          · rename_i hpeer
            split at h
            · rename_i hroom
              cases h
              exact .wrote hpending hholder (by rw [hpeer]; nofun) hroom.1 hroom.2.1
            · cases h
          · rename_i hpeer
            cases h
            exact .refused hpending hholder hpeer
          · rename_i hpeer
            cases h
            exact .signalled hpending hholder hpeer
  · unfold processStep at h
    rw [if_neg hrunning] at h
    cases h

end Effect

/-! ## The invariant -/

/-- A connection takes all that is owed to its descriptor. -/
structure TakesAll (room : Nat → Nat) (process : ServerProcess) (fd peer : Nat) : Prop where
  unbroken : process.peer peer = .broken → owed process fd = 0
  fits : Fits (room peer) (process.unread peer) process.server.threads.length (owedBy process fd)

/-- What every careful step keeps: the process runs, and whatever a thread owes to a connection, the
    connection takes. -/
structure ServingInv (room : Nat → Nat) (process : ServerProcess) : Prop where
  threads : ThreadInv process.server
  running : process.running = true
  first : ∀ index session pc, At process.server index session pc → LogoutFirst pc
  short : ∀ index, ∀ call ∈ process.pending index, call.total < sizeofChatResponse
  fresh : ∀ index, process.server.threads.length ≤ index →
    process.peer index = .there ∧ process.unread index = 0 ∧ process.pending index = []
  takesAll : ∀ fd peer, holderOf process.server.threads fd = some peer →
    TakesAll room process fd peer

theorem servingInv_start (room : Nat → Nat) (userDb : List UInt8) :
    ServingInv room (.start userDb) where
  threads := threadInv_start userDb
  running := rfl
  first := fun _ _ _ h => by simp [At, ServerProcess.start, ThreadedServer.start] at h
  short := fun _ _ h => absurd h List.not_mem_nil
  fresh := fun _ _ => ⟨rfl, rfl, rfl⟩
  takesAll := fun _ _ h => by cases h

section Holders

variable {server server' : ThreadedServer} {index fd peer : Nat} {session session' : ClientSession}
  {pc pc' : ThreadPc}

/-- A thread that moves hands no descriptor to another connection. -/
theorem ThreadInv.holder_before (h : ThreadInv server) (h' : ThreadInv server')
    (hat : At server index session pc) (hopen : pc.isOpen = true)
    (hthreads : server'.threads = server.threads.set index ⟨session', pc'⟩)
    (hfd : session'.clientFd = session.clientFd)
    (hholder : holderOf server'.threads fd = some peer) :
    holderOf server.threads fd = some peer := by
  obtain ⟨s, p, hs, hp, rfl⟩ := h'.holderOf_iff.mp hholder
  rcases (at_set hat hthreads).mp hs with ⟨rfl, rfl, rfl⟩ | ⟨-, hs⟩
  · exact h.holderOf_iff.mpr ⟨session, pc, hat, hopen, hfd.symm⟩
  · exact h.holderOf_iff.mpr ⟨s, p, hs, hp, rfl⟩

/-- A new connection has the descriptor that it was accepted with. -/
theorem ThreadInv.holder_accepted (h : ThreadInv server) (h' : ThreadInv server') {new : Nat}
    (hthreads : server'.threads = server.threads ++ [⟨.fresh new, .reading⟩])
    (hholder : holderOf server'.threads fd = some peer) :
    peer = server.threads.length ∧ fd = new ∨ holderOf server.threads fd = some peer := by
  obtain ⟨s, p, hs, hp, rfl⟩ := h'.holderOf_iff.mp hholder
  unfold At at hs
  rw [hthreads, Records.getElem?_concat_eq_some] at hs
  rcases hs with ⟨rfl, heq⟩ | hs
  · cases heq
    exact .inl ⟨rfl, rfl⟩
  · exact .inr (h.holderOf_iff.mpr ⟨s, p, hs, hp, rfl⟩)

end Holders

section Claims

variable {room : Nat → Nat} {process process' : ServerProcess} {index fd peer target : Nat}

/-- Nobody claims more, and nothing is written to the connection. -/
theorem TakesAll.congr (h : TakesAll room process fd peer)
    (hlength : process'.server.threads.length = process.server.threads.length)
    (hpeer : process'.peer peer = process.peer peer)
    (hunread : process'.unread peer ≤ process.unread peer)
    (howed : ∀ i < process.server.threads.length, owedBy process' fd i = owedBy process fd i) :
    TakesAll room process' fd peer where
  unbroken := by
    intro hbroken
    rw [owed, hlength, total_congr howed]
    -- what is owed is the same, so a broken connection is still owed nothing
    exact h.unbroken (hpeer ▸ hbroken)
  fits := by
    unfold Fits
    rw [hlength, total_congr howed]
    exact h.fits.take hunread

/-- One thread takes on a response for a descriptor. -/
theorem TakesAll.takesOn (h : TakesAll room process fd peer)
    (hholder : holderOf process.server.threads fd = some peer)
    (hlt : index < process.server.threads.length)
    (hlength : process'.server.threads.length = process.server.threads.length)
    (hpeer : process'.peer peer = process.peer peer)
    (hunread : process'.unread peer = process.unread peer)
    (hothers : ∀ i, i ≠ index → owedBy process' fd i = owedBy process fd i)
    (hself : owedBy process' fd index =
      owedBy process fd index + if target = fd then sizeofChatResponse else 0)
    (hon : TakesOn room process target) : TakesAll room process' fd peer := by
  -- only the descriptor the response goes to is owed more, and the guard says that there is room
  by_cases htarget : target = fd
  · subst htarget
    rw [if_pos rfl] at hself
    obtain ⟨hunbroken, hroom⟩ := hon peer hholder
    constructor
    · exact fun hbroken => absurd (hpeer ▸ hbroken) hunbroken
    · rw [hlength, hunread]
      refine Fits.claim ?_ hlt hothers
      rw [hself]
      unfold owed at hroom
      omega
  · rw [if_neg htarget, Nat.add_zero] at hself
    refine h.congr hlength hpeer (Nat.le_of_eq hunread) fun i _ => ?_
    -- the other threads owe what they owed, and this one owes nothing new here
    by_cases hi : i = index
    · rw [hi, hself]
    · exact hothers i hi

/-- One thread puts in some of what it owes, or drops it. -/
theorem TakesAll.put (h : TakesAll room process fd peer)
    (hlt : index < process.server.threads.length)
    (hlength : process'.server.threads.length = process.server.threads.length)
    (hpeer : process'.peer peer = process.peer peer)
    (hothers : ∀ i, i ≠ index → owedBy process' fd i = owedBy process fd i)
    (hput : process'.unread peer + owedBy process' fd index ≤
      process.unread peer + owedBy process fd index)
    (hless : owedBy process' fd index ≤ owedBy process fd index) :
    TakesAll room process' fd peer where
  unbroken := by
    intro hbroken
    have hzero := h.unbroken (hpeer ▸ hbroken)
    -- the sum changes with this thread's part only
    have hchange := total_change hlt hothers
    have hle : owedBy process fd index ≤ owed process fd := le_total hlt
    rw [owed, hlength]
    unfold owed at hzero hle
    omega
  fits := hlength ▸ h.fits.put hlt hothers hput

end Claims

/-! ## Every step -/

section Steps

variable {room : Nat → Nat} {process process' : ServerProcess} {index : Nat}
  {session session' : ClientSession} {pc pc' : ThreadPc}

/-- A thread that has something pending is one of the threads. -/
theorem ServingInv.lt_length (h : ServingInv room process) {call : WriteFull}
    {later : List WriteFull} (hpending : process.pending index = call :: later) :
    index < process.server.threads.length := by
  by_contra hge
  rw [(h.fresh index (Nat.not_lt.mp hge)).2.2] at hpending
  cases hpending

/-- The other end of a connection changes; it only breaks when nothing is owed to it. -/
theorem ServingInv.setPeer (h : ServingInv room process)
    (hlt : index < process.server.threads.length) {value : PeerEnd}
    (hbroken : value = .broken → NothingOwed process index) :
    ServingInv room (process.setPeer index value) where
  threads := h.threads
  running := h.running
  first := h.first
  short := h.short
  fresh := by
    intro i hi
    -- a connection that is still to be accepted is not this one
    have hne : i ≠ index := Nat.ne_of_gt (Nat.lt_of_lt_of_le hlt hi)
    exact ⟨(Function.update_of_ne hne ..).trans (h.fresh i hi).1, (h.fresh i hi).2⟩
  takesAll := by
    intro fd peer hholder
    have hold := h.takesAll fd peer hholder
    -- only the connection that changes has to be looked at
    by_cases hpeer : peer = index
    · subst hpeer
      refine ⟨fun hvalue => ?_, hold.fits⟩
      obtain ⟨s, p, hs, hp, rfl⟩ := h.threads.holderOf_iff.mp hholder
      exact hbroken ((Function.update_self ..).symm.trans hvalue) ⟨s, p⟩ hs hp
    · exact hold.congr rfl (Function.update_of_ne hpeer ..) (Nat.le_refl _) fun _ _ => rfl

/-- The client reads. -/
theorem ServingInv.take (h : ServingInv room process) {count : Nat} (hpos : 0 < count)
    (hcount : count ≤ process.unread index) :
    ServingInv room { process with
      unread := Function.update process.unread index (process.unread index - count) } where
  threads := h.threads
  running := h.running
  first := h.first
  short := h.short
  fresh := by
    intro i hi
    obtain ⟨hthere, hnone, hidle⟩ := h.fresh i hi
    -- there is something to be read, so the connection has been accepted
    have hne : i ≠ index := fun heq => by
      rw [heq] at hnone
      omega
    exact ⟨hthere, (Function.update_of_ne hne ..).trans hnone, hidle⟩
  takesAll := by
    intro fd peer hholder
    refine (h.takesAll fd peer hholder).congr rfl rfl ?_ fun _ _ => rfl
    -- fewer bytes wait, so the claims still fit
    by_cases hpeer : peer = index
    · subst hpeer
      show Function.update process.unread peer _ peer ≤ _
      rw [Function.update_self]
      exact Nat.sub_le _ _
    · exact (Function.update_of_ne hpeer ..).le

/-- A connection is accepted. -/
theorem ServingInv.accept (h : ServingInv room process) {server : ThreadedServer} {new : Nat}
    (hnext : nextThreaded process.server (.accept new) = some server)
    (hthreads : server.threads = process.server.threads ++ [⟨.fresh new, .reading⟩])
    (hroom : owed process new ≤ room process.server.threads.length) :
    ServingInv room { process with server := server } := by
  have hinv := h.threads.step hnext
  have hlength : server.threads.length = process.server.threads.length + 1 := by
    rw [hthreads, List.length_append]
    rfl
  obtain ⟨hthere, hempty, hidle⟩ := h.fresh _ (Nat.le_refl process.server.threads.length)
  -- the new thread owes nothing, and the others what they owed
  have howed : ∀ fd i, owedBy { process with server := server } fd i = owedBy process fd i := by
    intro fd i
    rw [owedBy, owedBy]
    simp only [hthreads]
    by_cases hi : i < process.server.threads.length
    · rw [List.getElem?_append_left hi]
    · by_cases hi' : i = process.server.threads.length
      · rw [hi', List.getElem?_concat_length, List.getElem?_eq_none (Nat.le_refl _),
          Option.map_some, ackOwed_of_none fd ⟨.fresh new, .reading⟩ rfl]
        rfl
      · rw [List.getElem?_eq_none (Nat.not_lt.mp hi), List.getElem?_eq_none]
        rw [List.length_append, List.length_singleton]
        omega
  have htotal : ∀ fd, total server.threads.length (owedBy { process with server := server } fd) =
      owed process fd := by
    intro fd
    have hnew : owedBy process fd process.server.threads.length = 0 := by
      rw [owedBy, hidle, List.getElem?_eq_none (Nat.le_refl _)]
      rfl
    rw [funext (howed fd), hlength, total_succ hnew]
    rfl
  refine ⟨hinv, h.running, ?_, h.short, ?_, ?_⟩
  · intro i s p hi
    unfold At at hi
    rw [hthreads, Records.getElem?_concat_eq_some] at hi
    rcases hi with ⟨-, heq⟩ | hi
    · cases heq
      intro request hrequest
      cases hrequest
    · exact h.first i s p hi
  · intro i hi
    have hlt : process.server.threads.length + 1 ≤ i := hlength.ge.trans hi
    exact h.fresh i (Nat.le_of_succ_le hlt)
  · intro fd peer hholder
    rcases h.threads.holder_accepted hinv hthreads hholder with ⟨rfl, rfl⟩ | hholder
    · -- the new connection takes what is owed to the number from before
      refine ⟨fun hbroken => ?_, ?_⟩
      · cases hthere.symm.trans hbroken
      unfold Fits
      rw [htotal, hempty, Nat.zero_add]
      exact hroom
    · have hold := h.takesAll fd peer hholder
      refine ⟨fun hbroken => (htotal fd).trans (hold.unbroken hbroken), ?_⟩
      unfold Fits
      rw [htotal]
      exact hold.fits

/-- A thread moves: the descriptors stay where they are, and the claims are settled elsewhere. -/
theorem ServingInv.move (h : ServingInv room process) (hinv : ThreadInv process'.server)
    (hat : At process.server index session pc) (hopen : pc.isOpen = true)
    (hthreads : process'.server.threads = process.server.threads.set index ⟨session', pc'⟩)
    (hfd : session'.clientFd = session.clientFd) (hfirst : LogoutFirst pc')
    (hrunning : process'.running = process.running) (hunread : process'.unread = process.unread)
    (hpeer : ∀ i, i ≠ index → process'.peer i = process.peer i)
    (hothers : ∀ i, i ≠ index → process'.pending i = process.pending i)
    (hshort : ∀ call ∈ process'.pending index, call.total < sizeofChatResponse)
    (htakes : ∀ fd peer, holderOf process.server.threads fd = some peer →
      TakesAll room process' fd peer) : ServingInv room process' where
  threads := hinv
  running := hrunning.trans h.running
  first := by
    intro i s p hi
    rcases (at_set hat hthreads).mp hi with ⟨-, -, rfl⟩ | ⟨-, hi⟩
    · exact hfirst
    · exact h.first i s p hi
  -- the other threads have the calls they had
  short := by
    intro i
    by_cases hi : i = index
    · exact hi ▸ hshort
    · rw [hothers i hi]
      exact h.short i
  fresh := by
    intro i hi
    rw [hthreads, List.length_set] at hi
    -- a connection that is still to be accepted belongs to no thread yet
    have hne : i ≠ index :=
      Nat.ne_of_gt (Nat.lt_of_lt_of_le (List.getElem?_eq_some_iff.mp hat).1 hi)
    rw [hpeer i hne, hunread, hothers i hne]
    exact h.fresh i hi
  takesAll := fun fd peer hholder =>
    htakes fd peer (h.threads.holder_before hinv hat hopen hthreads hfd hholder)

/-- A step of one thread leaves what the others owe. -/
theorem owedBy_of_set (process process' : ServerProcess) {thread : ClientThread}
    (hthreads : process'.server.threads = process.server.threads.set index thread)
    (hothers : ∀ i, i ≠ index → process'.pending i = process.pending i) (fd i : Nat)
    (hi : i ≠ index) : owedBy process' fd i = owedBy process fd i := by
  refine owedBy_congr process process' ?_ (hothers i hi) fd
  rw [hthreads, List.getElem?_set_ne (Ne.symm hi)]

/-- A thread has read a request, and owes its ack. -/
theorem ServingInv.request (h : ServingInv room process) {request : RequestPtr}
    {server : ThreadedServer} (hat : At process.server index session .reading)
    (hpending : process.pending index = [])
    (hnext : nextThreaded process.server (.read index (some request)) = some server)
    (hthreads : server.threads = process.server.threads.set index ⟨session, .handling request⟩)
    (hok : TakesOn room process session.clientFd) :
    ServingInv room { process with server := server } := by
  have hlt : index < process.server.threads.length := (List.getElem?_eq_some_iff.mp hat).1
  have hlength : server.threads.length = process.server.threads.length := by
    rw [hthreads, List.length_set]
  have hat' : At server index session (.handling request) :=
    (at_set hat hthreads).mpr (.inl ⟨rfl, rfl, rfl⟩)
  -- the thread keeps its descriptor, and every claim but the ack's is as it was
  refine h.move (h.threads.step hnext) hat rfl hthreads rfl trivial rfl rfl (fun _ _ => rfl)
    (fun _ _ => rfl) (h.short index) fun fd peer hholder => ?_
  refine (h.takesAll fd peer hholder).takesOn hholder hlt hlength rfl rfl
    (owedBy_of_set process { process with server := server } hthreads (fun _ _ => rfl) fd) ?_ hok
  rw [owedBy_of_at process fd hat, owedBy_of_at { process with server := server } fd hat', hpending,
    ackOwed_of_none fd ⟨session, .reading⟩ rfl, ackOwed_of_some fd ⟨session, .handling request⟩ rfl]
  rfl

/-- A thread cannot read any more, and leaves its loop. -/
theorem ServingInv.readFailed (h : ServingInv room process) {server : ThreadedServer}
    (hat : At process.server index session .reading)
    (hnext : nextThreaded process.server (.read index none) = some server)
    (hthreads : server.threads = process.server.threads.set index ⟨session, .leaving⟩)
    (hok : process.peer index = .reset → NothingOwed process index) :
    ServingInv room (ServerProcess.setPeer { process with server := server } index
      (process.peer index).report) := by
  have hlt : index < process.server.threads.length := (List.getElem?_eq_some_iff.mp hat).1
  have hlength : server.threads.length = process.server.threads.length := by
    rw [hthreads, List.length_set]
  have hat' : At server index session .leaving :=
    (at_set hat hthreads).mpr (.inl ⟨rfl, rfl, rfl⟩)
  have howed : ∀ fd i, owedBy { process with server := server } fd i = owedBy process fd i := by
    intro fd i
    by_cases hi : i = index
    · rw [hi, owedBy_of_at process fd hat, owedBy_of_at { process with server := server } fd hat',
        ackOwed_of_none fd ⟨session, .reading⟩ rfl, ackOwed_of_none fd ⟨session, .leaving⟩ rfl]
    · exact owedBy_of_set process { process with server := server } hthreads (fun _ _ => rfl) fd i
        hi
  have hmoved : ServingInv room { process with server := server } := by
    refine h.move (h.threads.step hnext) hat rfl hthreads rfl nofun rfl rfl (fun _ _ => rfl)
      (fun _ _ => rfl) (h.short index) fun fd peer hholder => ?_
    exact (h.takesAll fd peer hholder).congr hlength rfl (Nat.le_refl _) fun i _ => howed fd i
  refine hmoved.setPeer (hlength ▸ hlt) fun hbroken thread hthread _ => ?_
  obtain rfl : ⟨session, .leaving⟩ = thread := Option.some.inj (hat'.symm.trans hthread)
  -- the connection breaks now, or is broken already
  have hzero : owed process session.clientFd = 0 := by
    cases hpeer : process.peer index with
    | there => rw [hpeer] at hbroken; cases hbroken
    | closed => rw [hpeer] at hbroken; cases hbroken
    | reset => exact hok hpeer ⟨session, .reading⟩ hat rfl
    | broken =>
      have hholder : holderOf process.server.threads session.clientFd = some index :=
        h.threads.holderOf_iff.mpr ⟨session, .reading, hat, rfl, rfl⟩
      exact (h.takesAll _ _ hholder).unbroken hpeer
  rw [owed, hlength, total_congr fun i _ => howed _ i]
  exact hzero

/-- A piece of a thread; the delivery that it may have looked a descriptor up for fits. -/
theorem ServingInv.advance (h : ServingInv room process) {access : FileAccess} {written : Bool}
    {next : ThreadStep} (hat : At process.server index session pc)
    (hpending : process.pending index = [])
    (hadvance : advanceThread process.server ⟨session, pc⟩ access written = some next)
    (hnext : nextThreaded process.server (.advance index access written) = some process'.server)
    (hthreads : process'.server.threads = process.server.threads.set index next.thread)
    (hprocess' : process' = { process with
      server := process'.server
      pending := Function.update process.pending index
        (callsBehind (some next.thread) next.writes)
      result := Function.update process.result index none })
    (hok : ∀ fd ∈ lookedUp process.server index, TakesOn room process fd) :
    ServingInv room process' := by
  have hlt : index < process.server.threads.length := (List.getElem?_eq_some_iff.mp hat).1
  have hlength : process'.server.threads.length = process.server.threads.length := by
    rw [hthreads, List.length_set]
  have hat' : process'.server.threads[index]? = some next.thread := by
    rw [hthreads, List.getElem?_set_self hlt]
  have hcalls' : process'.pending index = callsBehind (some next.thread) next.writes := by
    rw [hprocess']
    exact Function.update_self ..
  have hothers : ∀ i, i ≠ index → process'.pending i = process.pending i := by
    intro i hi
    rw [hprocess']
    exact Function.update_of_ne hi ..
  have hpeer : process'.peer = process.peer := by rw [hprocess']
  have hunread : process'.unread = process.unread := by rw [hprocess']
  have hfirst := h.first index session pc hat
  obtain ⟨hcalls, -, hfirst'⟩ := pieceCalls hfirst hadvance
  refine h.move (h.threads.step hnext) hat (isOpen_of_advanceThread hadvance) hthreads
    (clientFd_advanceThread hadvance) hfirst' (by rw [hprocess']) hunread
    (fun i _ => congrFun hpeer i) hothers ?_ ?_
  · -- a call that has just been made has written nothing
    intro call hcall
    rw [hcalls'] at hcall
    cases hcalls with
    | delivers _ _ hone =>
      rw [hone] at hcall
      rw [List.mem_singleton.mp hcall]
      exact (by decide : 0 < sizeofChatResponse)
    | answers _ _ _ hone =>
      rw [hone] at hcall
      rw [List.mem_singleton.mp hcall]
      exact (by decide : 0 < sizeofChatResponse)
    | quiet _ hnone =>
      rw [hnone] at hcall
      cases hcall
  · intro fd peer hholder
    have hold := h.takesAll fd peer hholder
    have hrest := owedBy_of_set process process' hthreads hothers fd
    rcases owedBy_advance process process' hat hpending hfirst hadvance hat' hcalls' with
      hsame | ⟨peerFd, hlook, hmore⟩
    · refine hold.congr hlength (congrFun hpeer peer) (congrFun hunread peer).le fun i _ => ?_
      by_cases hi : i = index
      · exact hi ▸ hsame fd
      · exact hrest i hi
    · exact hold.takesOn hholder hlt hlength (congrFun hpeer peer) (congrFun hunread peer) hrest
        (hmore fd) (hok peerFd hlook)

/-- A connection that has a descriptor has no other one. -/
theorem ServingInv.fd_unique (h : ServingInv room process) {fd fd' peer : Nat}
    (hholder : holderOf process.server.threads fd = some peer)
    (hholder' : holderOf process.server.threads fd' = some peer) : fd = fd' := by
  obtain ⟨s, p, hs, -, rfl⟩ := h.threads.holderOf_iff.mp hholder
  obtain ⟨s', p', hs', -, rfl⟩ := h.threads.holderOf_iff.mp hholder'
  obtain ⟨rfl, -⟩ := hs.unique hs'
  rfl

/-- What a thread owes, in its calls and besides. -/
theorem owedBy_of_calls (process process' : ServerProcess)
    (hserver : process'.server = process.server) (fd index : Nat) :
    owedBy process' fd index + leftToWrite (·.fd = fd) (process.pending index) =
      owedBy process fd index + leftToWrite (·.fd = fd) (process'.pending index) := by
  rw [owedBy, owedBy, hserver]
  omega

/-- A thread gets on with its calls: it puts in what it takes off them, or drops some. -/
theorem ServingInv.put (h : ServingInv room process) (hlt : index < process.server.threads.length)
    (hserver : process'.server = process.server) (hrunning : process'.running = process.running)
    (hpeer : process'.peer = process.peer)
    (hothers : ∀ i, i ≠ index → process'.pending i = process.pending i)
    (hshort : ∀ call ∈ process'.pending index, call.total < sizeofChatResponse)
    (hfresh : ∀ i, process.server.threads.length ≤ i → process'.unread i = process.unread i)
    (hless : ∀ fd, leftToWrite (·.fd = fd) (process'.pending index) ≤
      leftToWrite (·.fd = fd) (process.pending index))
    (hput : ∀ fd peer, holderOf process.server.threads fd = some peer →
      process'.unread peer + leftToWrite (·.fd = fd) (process'.pending index) ≤
        process.unread peer + leftToWrite (·.fd = fd) (process.pending index)) :
    ServingInv room process' where
  threads := hserver ▸ h.threads
  running := hrunning.trans h.running
  first := hserver ▸ h.first
  short := by
    intro i
    by_cases hi : i = index
    · exact hi ▸ hshort
    · rw [hothers i hi]
      exact h.short i
  fresh := by
    intro i hi
    rw [hserver] at hi
    rw [hpeer, hfresh i hi, hothers i (Nat.ne_of_gt (Nat.lt_of_lt_of_le hlt hi))]
    exact h.fresh i hi
  takesAll := by
    intro fd peer hholder
    rw [hserver] at hholder
    have hcalls := owedBy_of_calls process process' hserver fd index
    -- what the thread owes for the descriptor comes from its calls alone
    have hless := hless fd
    have hput := hput fd peer hholder
    refine (h.takesAll fd peer hholder).put hlt (by rw [hserver]) (congrFun hpeer peer)
      (fun i hi => owedBy_congr process process' (by rw [hserver]) (hothers i hi) fd) ?_ ?_
    · omega
    · omega

/-- A call of `write_full` returns, whatever it has left. -/
theorem ServingInv.returns (h : ServingInv room process) {call : WriteFull} {later : List WriteFull}
    (hpending : process.pending index = call :: later) (written : Bool) :
    ServingInv room (process.returns index later written) := by
  -- the call that returns drops what it has left, which is no more than was owed
  have hless : ∀ fd, leftToWrite (·.fd = fd) later ≤
      leftToWrite (·.fd = fd) (process.pending index) := by
    intro fd
    rw [hpending, leftToWrite_cons]
    exact Nat.le_add_left ..
  have hlater : (process.returns index later written).pending index = later :=
    Function.update_self ..
  refine h.put (h.lt_length hpending) rfl rfl rfl (fun i hi => Function.update_of_ne hi ..) ?_
    (fun _ _ => rfl) ?_ ?_
  · rw [hlater]
    exact fun call' hcall => h.short index call' (hpending ▸ List.mem_cons_of_mem call hcall)
  · rw [hlater]
    exact hless
  · rw [hlater]
    exact fun fd peer _ => Nat.add_le_add_left (hless fd) _

/-- The calls that are left when a `write` has taken some bytes. -/
theorem pending_writeSome (process : ServerProcess) (index : Nat) (call : WriteFull)
    (later : List WriteFull) (peer count : Nat) :
    (process.writeSome index call later peer count).pending index =
      if call.total + count < sizeofChatResponse then
        { call with total := call.total + count } :: later
      else later := by
  unfold ServerProcess.writeSome
  simp only
  split
  · exact Function.update_self ..
  · exact Function.update_self ..

/-- A `write` is about one connection, and one thread. -/
theorem writeSome_rest (process : ServerProcess) (index : Nat) (call : WriteFull)
    (later : List WriteFull) (peer count : Nat) :
    (process.writeSome index call later peer count).server = process.server ∧
      (process.writeSome index call later peer count).running = process.running ∧
      (process.writeSome index call later peer count).peer = process.peer ∧
      (process.writeSome index call later peer count).unread =
        Function.update process.unread peer (process.unread peer + count) ∧
      ∀ i, i ≠ index →
        (process.writeSome index call later peer count).pending i = process.pending i := by
  -- the call is through or goes on; neither touches more than the pending calls
  unfold ServerProcess.writeSome
  simp only
  split
  · exact ⟨rfl, rfl, rfl, rfl, fun i hi => Function.update_of_ne hi ..⟩
  · exact ⟨rfl, rfl, rfl, rfl, fun i hi => Function.update_of_ne hi ..⟩

/-- The bytes that a `write` has taken are no longer to be written. -/
theorem leftToWrite_writeSome (counts : WriteFull → Bool) (peer : Nat) {call : WriteFull}
    {later : List WriteFull} (hpending : process.pending index = call :: later)
    (hcounts : ∀ total, counts { call with total := total } = counts call) {count : Nat}
    (hshort : call.total < sizeofChatResponse) (hcount : count ≤ sizeofChatResponse - call.total) :
    leftToWrite counts ((process.writeSome index call later peer count).pending index) +
        (if counts call then count else 0) = leftToWrite counts (process.pending index) := by
  rw [pending_writeSome, hpending, leftToWrite_cons]
  split
  · rw [leftToWrite_cons, hcounts]
    cases counts call <;> simp only [if_true, Bool.false_eq_true, if_false] <;> omega
  · cases counts call <;> simp only [if_true, Bool.false_eq_true, if_false] <;> omega

/-- A `write` takes some bytes. -/
theorem ServingInv.writeSome (h : ServingInv room process) {call : WriteFull}
    {later : List WriteFull} (hpending : process.pending index = call :: later) {peer count : Nat}
    (hholder : holderOf process.server.threads call.fd = some peer)
    (hcount : count ≤ sizeofChatResponse - call.total) :
    ServingInv room (process.writeSome index call later peer count) := by
  obtain ⟨hserver, hrunning, hpeer, hunread, hothers⟩ :=
    writeSome_rest process index call later peer count
  have hshort := h.short index call (hpending ▸ List.mem_cons_self)
  -- every byte that is put in is a byte less to write, for the descriptor it goes to
  have hleft : ∀ fd, leftToWrite (·.fd = fd)
      ((process.writeSome index call later peer count).pending index) +
        (if call.fd = fd then count else 0) = leftToWrite (·.fd = fd) (process.pending index) := by
    intro fd
    have heq := leftToWrite_writeSome (·.fd = fd) peer hpending (fun _ => rfl) hshort hcount
    simpa only [decide_eq_true_eq] using heq
  refine h.put (h.lt_length hpending) hserver hrunning hpeer hothers ?_ ?_ ?_ ?_
  · -- the call goes on only with bytes left
    intro call' hcall
    rw [pending_writeSome] at hcall
    split at hcall
    · rename_i htotal
      rcases List.mem_cons.mp hcall with rfl | hcall
      · exact htotal
      · exact h.short index call' (hpending ▸ List.mem_cons_of_mem call hcall)
    · exact h.short index call' (hpending ▸ List.mem_cons_of_mem call hcall)
  · -- the connection is held by a thread, so it has been accepted
    intro i hi
    obtain ⟨s, p, hs, -, -⟩ := h.threads.holderOf_iff.mp hholder
    have hne : i ≠ peer :=
      Nat.ne_of_gt (Nat.lt_of_lt_of_le (List.getElem?_eq_some_iff.mp hs).1 hi)
    rw [hunread, Function.update_of_ne hne]
  · -- nobody is owed more
    intro fd
    exact (Nat.le_add_right ..).trans (hleft fd).le
  · intro fd peer' hholder'
    have hleft := hleft fd
    rw [hunread]
    by_cases hsame : peer' = peer
    · -- the connection that takes the bytes has no other descriptor
      subst hsame
      rw [if_pos (h.fd_unique hholder hholder')] at hleft
      rw [Function.update_self]
      omega
    · rw [Function.update_of_ne hsame]
      omega

/-- A `write` reports the reset, with nothing else owed to the connection. -/
theorem ServingInv.refused (h : ServingInv room process) {call : WriteFull} {later : List WriteFull}
    (hpending : process.pending index = call :: later) {peer : Nat}
    (hholder : holderOf process.server.threads call.fd = some peer)
    (hok : owed process call.fd ≤ sizeofChatResponse - call.total) :
    ServingInv room ((process.setPeer peer .broken).returns index later false) := by
  have hlt := h.lt_length hpending
  have hreturned := h.returns hpending false
  obtain ⟨s, p, hs, hp, hfd⟩ := h.threads.holderOf_iff.mp hholder
  have hpeer : peer < process.server.threads.length := (List.getElem?_eq_some_iff.mp hs).1
  suffices hnothing : NothingOwed (process.returns index later false) peer from
    hreturned.setPeer hpeer fun _ => hnothing
  intro thread hthread _
  obtain rfl : ⟨s, p⟩ = thread := Option.some.inj (hs.symm.trans hthread)
  -- what was owed was owed by this call
  have hcalls := owedBy_of_calls process (process.returns index later false) rfl call.fd index
  have hlater : (process.returns index later false).pending index = later :=
    Function.update_self ..
  rw [hlater, hpending, leftToWrite_own] at hcalls
  have hchange := total_change hlt fun i hi => owedBy_congr process
    (process.returns index later false) rfl (Function.update_of_ne hi ..) call.fd
  have hle : owedBy process call.fd index ≤ owed process call.fd := le_total hlt
  show owed (process.returns index later false) s.clientFd = 0
  rw [hfd]
  unfold owed at hok hle ⊢
  show total process.server.threads.length _ = 0
  omega

/-- A thread that has a call under way owes the rest of it. -/
theorem ServingInv.owedBy_pos (h : ServingInv room process) {call : WriteFull}
    {later : List WriteFull} (hpending : process.pending index = call :: later) :
    0 < owedBy process call.fd index := by
  have hshort := h.short index call (hpending ▸ List.mem_cons_self)
  rw [owedBy, hpending, leftToWrite_own]
  omega

theorem ServingInv.owed_pos (h : ServingInv room process) {call : WriteFull}
    {later : List WriteFull} (hpending : process.pending index = call :: later) :
    0 < owed process call.fd :=
  Nat.lt_of_lt_of_le (h.owedBy_pos hpending) (le_total (h.lt_length hpending))

/-- Every careful step keeps the invariant. -/
theorem ServingInv.step (h : ServingInv room process) {event : ProcessEvent}
    (hok : Careful room process event) (hstep : processStep room process event = some process') :
    ServingInv room process' := by
  cases (processEffect_of_step hstep).2 with
  | hungUp hlt => exact h.setPeer hlt nofun
  | reset hlt => exact h.setPeer hlt nofun
  | brokeOff hlt hpeer => exact h.setPeer hlt fun _ => hok hpeer
  | took hpos hcount => exact h.take hpos hcount
  | accepted hnext hthreads => exact h.accept hnext hthreads hok
  | @requested _ request session server hat hpending hnext hthreads =>
    exact h.request hat hpending hnext hthreads (hok ⟨session, .reading⟩ hat)
  | readFailed hat _ hnext hthreads => exact h.readFailed hat hnext hthreads hok
  | advanced hat hpending hadvance hnext hthreads =>
    exact h.advance hat hpending hadvance hnext hthreads rfl hok
  | noDescriptor hpending => exact h.returns hpending false
  | wrote hpending hholder _ _ hcount => exact h.writeSome hpending hholder hcount
  | refused hpending hholder hpeer =>
    refine h.refused hpending hholder (hok _ ?_ _ hholder hpeer)
    rw [hpending]
    rfl
  | signalled hpending hholder hpeer =>
    -- nothing is owed to a broken connection, so no thread has a call there
    have hzero := (h.takesAll _ _ hholder).unbroken hpeer
    have hpos := h.owed_pos hpending
    omega

end Steps

end ChatSC.Spec
