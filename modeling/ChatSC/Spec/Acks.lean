import ChatSC.Spec.Framing
import ChatSC.Spec.StreamBlocks

/-!
# One ack for each request

`send_request_and_wait_ack` waits for the ack of its request without a timeout, so a request without
an ack would block its client for good.  Here the streams of all connections run together, with the
threads of the server in any order.

`ReadingInv` keeps `StreamInv` for every connection: what other threads write to a connection is no
ack.  `ComesToRest` is the other half: a thread that has something left to do can do it, and every
step of it leaves less.
-/

namespace ChatSC.Spec

open Native

/-! ## What a step can do -/

/-- The thread is before `read_full`. -/
theorem at_of_atRead {system : ReadingServer} {index : Nat} (h : system.atRead index = true) :
    ∃ session, At system.server index session .reading := by
  unfold ReadingServer.atRead at h
  split at h
  · rename_i thread hat
    obtain ⟨session, pc⟩ := thread
    obtain rfl : pc = .reading := of_decide_eq_true h
    exact ⟨session, hat⟩
  · cases h

/-- All that a step can do to the threads and to the streams. -/
inductive ReadingEffect (system : ReadingServer) : ReadingEvent → ReadingServer → Prop
  | accepted {fd server} (hnext : nextThreaded system.server (.accept fd) = some server)
      (hthreads : server.threads = system.server.threads ++ [⟨.fresh fd, .reading⟩]) :
      ReadingEffect system (.accept fd) { system with server := server }
  | sent {index bytes} (hlt : index < system.server.threads.length)
      (hopen : (system.streams index).closed = false) :
      ReadingEffect system (.send index bytes) (system.setStream index
        { system.streams index with
          sent := (system.streams index).sent ++ bytes
          unread := (system.streams index).unread ++ bytes })
  | closed {index} (hlt : index < system.server.threads.length) :
      ReadingEffect system (.close index)
        (system.setStream index { system.streams index with closed := true })
  | part {index count after session} (hat : At system.server index session .reading)
      (hpos : 0 < count) (hroom : count ≤ sizeofChatRequest - (system.streams index).filled.length)
      (hcount : count ≤ (system.streams index).unread.length)
      (hpart : ((system.streams index).filled ++ (system.streams index).unread.take count).length ≠
        sizeofChatRequest) :
      ReadingEffect system (.read index count after)
        (system.setStream index (partRead (system.streams index) count))
  | whole {index count after session server} (hat : At system.server index session .reading)
      (hpos : 0 < count) (hcount : count ≤ (system.streams index).unread.length)
      (hwhole : ((system.streams index).filled ++ (system.streams index).unread.take count).length =
        sizeofChatRequest)
      (hnext : nextThreaded system.server (.read index (some ⟨.ofBytes _ hwhole, after⟩)) =
        some server)
      (hthreads : server.threads =
        system.server.threads.set index ⟨session, .handling ⟨.ofBytes _ hwhole, after⟩⟩) :
      ReadingEffect system (.read index count after)
        (ReadingServer.setStream { system with server := server } index
          (wholeRead (system.streams index) count))
  | ended {index session server} (hat : At system.server index session .reading)
      (hclosed : (system.streams index).closed = true)
      (hunread : (system.streams index).unread = [])
      (hnext : nextThreaded system.server (.read index none) = some server)
      (hthreads : server.threads = system.server.threads.set index ⟨session, .leaving⟩) :
      ReadingEffect system (.readEnd index) { system with server := server }
  | advanced {index access written session pc next server} (hat : At system.server index session pc)
      (hadvance : advanceThread system.server ⟨session, pc⟩ access written = some next)
      (hnext : nextThreaded system.server (.advance index access written) = some server)
      (hthreads : server.threads = system.server.threads.set index next.thread) :
      ReadingEffect system (.advance index access) ⟨server, system.receive next.writes⟩

/-- Every step has one of the effects. -/
theorem readingEffect_of_step {system system' : ReadingServer} {event : ReadingEvent}
    (h : readingStep system event = some system') : ReadingEffect system event system' := by
  cases event with
  | accept fd =>
    simp only [readingStep] at h
    split at h
    · cases h
    · rename_i server writes hstep
      cases h
      -- the connection is accepted without a byte being read
      have hnext := nextThreaded_of_step hstep
      obtain ⟨-, -, rfl⟩ := threadedStep_accept hstep
      exact .accepted hnext rfl
  | send index bytes =>
    simp only [readingStep] at h
    split at h
    · rename_i hopen
      cases h
      exact .sent hopen.1 hopen.2
    · cases h
  | close index =>
    simp only [readingStep] at h
    split at h
    · rename_i hlt
      cases h
      exact .closed hlt
    · cases h
  | read index count after =>
    simp only [readingStep] at h
    -- `read` gives at least one byte and no more than there is room for
    split at h
    · rename_i hread
      obtain ⟨hatRead, hpos, hroom, hcount⟩ := hread
      unfold readSome at h
      simp only at h
      split at h
      · -- the last byte of a block: the thread takes the request
        rename_i hwhole
        split at h
        · cases h
        · rename_i server writes hstep
          cases h
          have hnext := nextThreaded_of_step hstep
          obtain ⟨session, hat, -, rfl⟩ := threadedStep_read hstep
          exact .whole hat hpos hcount hwhole hnext rfl
      · -- `read_full` goes on
        rename_i hpart
        cases h
        obtain ⟨session, hat⟩ := at_of_atRead hatRead
        exact .part hat hpos hroom hcount hpart
    · cases h
  | readEnd index =>
    simp only [readingStep] at h
    split at h
    · -- the end of the stream, or an error of `read`
      rename_i hend
      split at h
      · cases h
      · rename_i server writes hstep
        cases h
        have hnext := nextThreaded_of_step hstep
        obtain ⟨session, hat, -, rfl⟩ := threadedStep_read hstep
        exact .ended hat hend.1 hend.2 hnext rfl
    · cases h
  | advance index access =>
    simp only [readingStep] at h
    split at h
    · cases h
    · -- a piece of the handler, whose response is written as a whole
      rename_i server writes hstep
      cases h
      have hnext := nextThreaded_of_step hstep
      obtain ⟨session, pc, next, hat, hadvance, rfl, rfl⟩ := threadedStep_advance hstep
      exact .advanced hat hadvance hnext rfl

/-! ## All connections -/

/-- What every step keeps of the server and its connections. -/
structure ReadingInv (system : ReadingServer) : Prop where
  threads : ThreadInv system.server
  streams : ∀ index session pc, At system.server index session pc →
    StreamInv (system.streams index) pc
  fresh : ∀ index, system.server.threads.length ≤ index → system.streams index = .start

theorem readingInv_start (userDb : List UInt8) : ReadingInv (.start userDb) where
  threads := threadInv_start userDb
  streams := fun _ _ _ h => by simp [At, ReadingServer.start, ThreadedServer.start] at h
  fresh := fun _ _ => rfl

/-- A connection before the first byte. -/
theorem streamInv_start : StreamInv .start .reading where
  sent := rfl
  whole := fun _ h => absurd h List.not_mem_nil
  short := show 0 < sizeofChatRequest by decide
  place := .reading (fun _ h => absurd h List.not_mem_nil) rfl

section System

variable {system system' : ReadingServer} {index : Nat} {session session' : ClientSession}
  {pc pc' : ThreadPc}

@[simp] theorem streams_setStream_self (system : ReadingServer) (index : Nat)
    (stream : ConnectionStream) : (system.setStream index stream).streams index = stream :=
  Function.update_self ..

theorem streams_setStream_of_ne (system : ReadingServer) {index i : Nat} (stream : ConnectionStream)
    (hne : i ≠ index) : (system.setStream index stream).streams i = system.streams i :=
  Function.update_of_ne hne ..

theorem At.lt_length {server : ThreadedServer} (h : At server index session pc) :
    index < server.threads.length := (List.getElem?_eq_some_iff.mp h).1

/-- A new connection has a fresh stream. -/
theorem ReadingInv.accept (h : ReadingInv system) {server : ThreadedServer} {fd : Nat}
    (hinv : ThreadInv server)
    (hthreads : server.threads = system.server.threads ++ [⟨.fresh fd, .reading⟩]) :
    ReadingInv { system with server := server } where
  threads := hinv
  streams := by
    intro i s p hi
    unfold At at hi
    rw [hthreads, Records.getElem?_concat_eq_some] at hi
    -- the new connection, or one of those that were there
    rcases hi with ⟨rfl, heq⟩ | hi
    · cases heq
      exact h.fresh _ (Nat.le_refl _) ▸ streamInv_start
    · exact h.streams i s p hi
  fresh := by
    intro i hi
    rw [hthreads, List.length_append] at hi
    exact h.fresh i (Nat.le_trans (Nat.le_add_right _ _) hi)

/-- A stream that changes while its thread stands still. -/
theorem ReadingInv.setStream (h : ReadingInv system) {stream : ConnectionStream}
    (hlt : index < system.server.threads.length)
    (hstream : ∀ session pc, At system.server index session pc → StreamInv stream pc) :
    ReadingInv (system.setStream index stream) where
  threads := h.threads
  streams := by
    intro i s p hi
    -- the stream that changes, or another one
    by_cases heq : i = index
    · subst heq
      rw [streams_setStream_self]
      exact hstream s p hi
    · rw [streams_setStream_of_ne system stream heq]
      exact h.streams i s p hi
  fresh := by
    intro i hi
    rw [streams_setStream_of_ne system stream (Nat.ne_of_gt (Nat.lt_of_lt_of_le hlt hi))]
    exact h.fresh i hi

/-- A thread that moves while its stream stays. -/
theorem ReadingInv.setThread (h : ReadingInv system) {server : ThreadedServer}
    (hinv : ThreadInv server) (hat : At system.server index session pc)
    (hthreads : server.threads = system.server.threads.set index ⟨session', pc'⟩)
    {stream : ConnectionStream} (hstream : StreamInv stream pc') :
    ReadingInv (ReadingServer.setStream { system with server := server } index stream) where
  threads := hinv
  streams := by
    intro i s p hi
    -- the thread that moves, or another one
    rcases (at_set hat hthreads).mp hi with ⟨rfl, rfl, rfl⟩ | ⟨hne, hi⟩
    · rw [streams_setStream_self]
      exact hstream
    · rw [streams_setStream_of_ne _ stream hne]
      exact h.streams i s p hi
  fresh := by
    intro i hi
    rw [ReadingServer.setStream, hthreads, List.length_set] at hi
    have hne : i ≠ index := Nat.ne_of_gt (Nat.lt_of_lt_of_le hat.lt_length hi)
    rw [streams_setStream_of_ne _ stream hne]
    exact h.fresh i hi

/-- A connection that is open receives what is written to its descriptor, and nothing else. -/
theorem ThreadInv.holder_eq {server : ThreadedServer} (h : ThreadInv server)
    (hat : At server index session pc) (hopen : pc.isOpen = true) (write : Write)
    (hfd : write.clientFd = session.clientFd) :
    holderOf server.threads write.clientFd = some index :=
  h.holderOf_iff.mpr ⟨session, pc, hat, hopen, hfd.symm⟩

/-- A piece of a thread, whose responses come to their connections. -/
theorem ReadingInv.advance (h : ReadingInv system) {access : FileAccess} {written : Bool}
    {next : ThreadStep} {server : ThreadedServer} (hinv : ThreadInv server)
    (hat : At system.server index session pc)
    (hnext : advanceThread system.server ⟨session, pc⟩ access written = some next)
    (hthreads : server.threads = system.server.threads.set index next.thread) :
    ReadingInv ⟨server, system.receive next.writes⟩ where
  threads := hinv
  streams := by
    intro i s p hi
    have hholder := h.threads.holder_eq hat (isOpen_of_advanceThread hnext)
    rcases (at_set hat hthreads).mp hi with ⟨rfl, rfl, rfl⟩ | ⟨hne, hi⟩
    · -- the connection of the thread receives all its acks
      exact (h.streams i session pc hat).advance hnext fun write hfd =>
        decide_eq_true (hholder write hfd)
    · -- another one receives at most a delivery
      refine (h.streams i s p hi).receive ?_
      refine (h.streams index session pc hat).place.acks_other hnext fun write hfd => ?_
      rw [hholder write hfd]
      exact decide_eq_false fun heq => hne (Option.some.inj heq).symm
  fresh := by
    intro i hi
    rw [hthreads, List.length_set] at hi
    -- what is written comes to a connection that exists
    have hnone : (next.writes.filter fun write =>
        holderOf system.server.threads write.clientFd = some i) = [] := by
      refine List.filter_eq_nil_iff.mpr fun write _ hholder => ?_
      obtain ⟨s, p, hi', -, -⟩ := h.threads.holderOf_iff.mp (of_decide_eq_true hholder)
      exact absurd hi (Nat.not_le.mpr hi'.lt_length)
    simp only [ReadingServer.receive, hnone, h.fresh i hi]
    rfl

/-- Every step keeps the invariant. -/
theorem ReadingInv.step {event : ReadingEvent} (h : ReadingInv system)
    (hstep : readingStep system event = some system') : ReadingInv system' := by
  cases readingEffect_of_step hstep with
  | accepted hnext hthreads => exact h.accept (h.threads.step hnext) hthreads
  | sent hlt hopen => exact h.setStream hlt fun s p hat => (h.streams _ s p hat).send hopen _
  | closed hlt => exact h.setStream hlt fun s p hat => (h.streams _ s p hat).close
  -- a part of a block: the thread waits for the rest
  | part hat _ hroom _ hpart =>
    refine h.setStream hat.lt_length fun s p hat' => ?_
    obtain ⟨rfl, rfl⟩ := hat.unique hat'
    exact (h.streams _ _ _ hat).readPart hroom hpart
  -- a block is whole: the thread has its request
  | whole hat _ _ hwhole hnext hthreads =>
    exact h.setThread (h.threads.step hnext) hat hthreads
      ((h.streams _ _ _ hat).readWhole hwhole)
  -- nothing more can be read, so the thread leaves
  | ended hat hclosed hunread hnext hthreads =>
    have hset := h.setThread (h.threads.step hnext) hat hthreads
      ((h.streams _ _ _ hat).readEnd hclosed hunread)
    rwa [ReadingServer.setStream, Function.update_eq_self] at hset
  | advanced hat hadvance hnext hthreads =>
    exact h.advance (h.threads.step hnext) hat hadvance hthreads

end System

/-! ## Progress -/

/-- The connection whose thread takes the step. -/
def readingThread : ReadingEvent → Option Nat
  | .read index _ _ | .readEnd index | .advance index _ => some index
  | .accept _ | .send _ _ | .close _ => none

/-- What the thread of a connection has still to do: the bytes to read, and its way to the end. -/
def workLeft (system : ReadingServer) (index : Nat) : Nat :=
  match system.server.threads[index]? with
  | some thread => 4 * (system.streams index).unread.length + stepsLeft thread.pc
  | none => 0

/-- The thread of a connection comes to rest: it can always take a step before, each of its steps
    leaves less to do, and nobody but the client gives it more. -/
structure ComesToRest (system : ReadingServer) (index : Nat) : Prop where
  able : ∀ session pc, At system.server index session pc → ¬ AtRest (system.streams index) pc →
    ∃ event, readingThread event = some index ∧ (readingStep system event).isSome = true
  less : ∀ event system', readingThread event = some index →
    readingStep system event = some system' → workLeft system' index < workLeft system index
  steady : ∀ event system', readingThread event ≠ some index →
    (∀ bytes, event ≠ .send index bytes) → readingStep system event = some system' →
      workLeft system' index = workLeft system index

section Progress

variable {system system' : ReadingServer} {index : Nat} {session session' : ClientSession}
  {pc pc' : ThreadPc}

theorem workLeft_of_at (hat : At system.server index session pc) :
    workLeft system index = 4 * (system.streams index).unread.length + stepsLeft pc := by
  unfold At at hat
  simp only [workLeft, hat]

/-- A piece of the thread brings it nearer to its end. -/
theorem Place.stepsLeft_lt {stream : ConnectionStream} (h : Place stream pc)
    {server : ThreadedServer} {access : FileAccess} {written : Bool} {next : ThreadStep}
    (hnext : advanceThread server ⟨session, pc⟩ access written = some next) :
    stepsLeft next.thread.pc < stepsLeft pc := by
  cases h with
  | reading => cases hnext
  | handling hhand hfirst =>
    -- a handler has four pieces at least
    have hfour : 4 ≤ stepsLeft pc := by
      cases pc <;> first | exact Nat.le_refl 4 | exact Nat.le_succ 4 | exact Nat.le_add_right 4 2 |
        cases hhand
    cases handlerPiece hhand hfirst hnext with
    | goesOn _ _ hsteps => exact hsteps
    | reads ack hpc =>
      rw [hpc]
      exact hfour
    | leaves ack hpc =>
      rw [hpc]
      exact Nat.lt_of_succ_lt hfour
  | ended hpc => exact (advanceThread_left hpc hnext).2.1
  | loggedOut hpc => exact (advanceThread_left hpc hnext).2.1

/-- What is left to do for a thread that has moved. -/
theorem workLeft_of_set (hat : At system.server index session pc)
    (hthreads : system'.server.threads = system.server.threads.set index ⟨session', pc'⟩) :
    workLeft system' index = 4 * (system'.streams index).unread.length + stepsLeft pc' :=
  workLeft_of_at ((at_set hat hthreads).mpr (.inl ⟨rfl, rfl, rfl⟩))

/-- The thread that takes the step has less to do. -/
theorem ReadingInv.less {event : ReadingEvent} (h : ReadingInv system)
    (hevent : readingThread event = some index) (hstep : readingStep system event = some system') :
    workLeft system' index < workLeft system index := by
  have hdrop : ∀ {count : Nat}, count ≤ (system.streams index).unread.length →
      ((system.streams index).unread.drop count).length + count =
        (system.streams index).unread.length := by
    intro count hcount
    rw [List.length_drop, Nat.sub_add_cancel hcount]
  cases readingEffect_of_step hstep with
  | accepted => cases hevent
  | sent => cases hevent
  | closed => cases hevent
  | @part _ count _ session hat hpos _ hcount =>
    cases hevent
    have hsame : At (system.setStream index (partRead (system.streams index) count)).server index
      session .reading := hat
    rw [workLeft_of_at hat, workLeft_of_at hsame, streams_setStream_self, ← hdrop hcount]
    simp only [partRead]
    omega
  | whole hat hpos hcount _ _ hthreads =>
    cases hevent
    rw [workLeft_of_at hat, workLeft_of_set hat hthreads, streams_setStream_self, ← hdrop hcount]
    -- a byte of the stream weighs more than the handler of a request
    simp only [wholeRead, stepsLeft]
    omega
  | ended hat _ _ _ hthreads =>
    cases hevent
    rw [workLeft_of_at hat, workLeft_of_set hat hthreads]
    exact Nat.add_lt_add_left (Nat.lt_succ_self 2) _
  | advanced hat hadvance _ hthreads =>
    cases hevent
    rw [workLeft_of_at hat, workLeft_of_set hat hthreads]
    exact Nat.add_lt_add_left ((h.streams _ _ _ hat).place.stepsLeft_lt hadvance) _

/-- What is left to do depends on the thread and on what is unread. -/
theorem workLeft_congr (hthread : system'.server.threads[index]? = system.server.threads[index]?)
    (hunread : (system'.streams index).unread = (system.streams index).unread) :
    workLeft system' index = workLeft system index := by
  rw [workLeft, workLeft, hthread, hunread]

/-- The steps of the other threads leave it as it is. -/
theorem workLeft_steady {event : ReadingEvent} (hlt : index < system.server.threads.length)
    (hevent : readingThread event ≠ some index) (hsend : ∀ bytes, event ≠ .send index bytes)
    (hstep : readingStep system event = some system') :
    workLeft system' index = workLeft system index := by
  -- a step of another thread leaves this one where it is
  have hother : ∀ {i : Nat} {server : ThreadedServer} {thread : ClientThread}, some i ≠ some index →
      server.threads = system.server.threads.set i thread →
      server.threads[index]? = system.server.threads[index]? := by
    intro i server thread hne hthreads
    rw [hthreads]
    exact List.getElem?_set_ne fun heq => hne (congrArg some heq)
  have hne : ∀ {i : Nat}, some i ≠ some index → index ≠ i :=
    fun hsome heq => hsome (congrArg some heq.symm)
  cases readingEffect_of_step hstep with
  | accepted _ hthreads =>
    refine workLeft_congr ?_ rfl
    rw [hthreads]
    exact List.getElem?_append_left hlt
  | @sent i bytes =>
    refine workLeft_congr rfl ?_
    rw [streams_setStream_of_ne _ _ fun heq => hsend bytes (by rw [heq])]
  | @closed i =>
    refine workLeft_congr rfl ?_
    by_cases heq : index = i
    · subst heq
      rw [streams_setStream_self]
    · rw [streams_setStream_of_ne _ _ heq]
  | part => exact workLeft_congr rfl (by rw [streams_setStream_of_ne _ _ (hne hevent)])
  | whole _ _ _ _ _ hthreads =>
    exact workLeft_congr (hother hevent hthreads)
      (by rw [streams_setStream_of_ne _ _ (hne hevent)])
  | ended _ _ _ _ hthreads => exact workLeft_congr (hother hevent hthreads) rfl
  | advanced _ _ _ hthreads => exact workLeft_congr (hother hevent hthreads) rfl

/-- A thread that reads, with something unread, can read a byte. -/
theorem ReadingInv.able_read (h : ReadingInv system) (hat : At system.server index session .reading)
    (hunread : (system.streams index).unread ≠ []) :
    (readingStep system (.read index 1 [])).isSome = true := by
  have hshort := (h.streams index session _ hat).short
  have hpos := List.length_pos_iff.mpr hunread
  have hatRead : system.atRead index = true := by
    unfold At at hat
    rw [ReadingServer.atRead, hat]
    rfl
  -- a `read` of one byte is allowed, as the buffer of a request has room for it
  have hread : system.atRead index ∧ 0 < 1 ∧
      1 ≤ sizeofChatRequest - (system.streams index).filled.length ∧
        1 ≤ (system.streams index).unread.length :=
    ⟨hatRead, Nat.zero_lt_one, Nat.sub_pos_of_lt hshort, hpos⟩
  simp only [readingStep]
  rw [if_pos hread]
  unfold readSome
  simp only
  split
  · unfold At at hat
    simp only [threadedStep, hat]
    rfl
  · rfl

/-- A thread that handles a request can go on. -/
theorem able_advance (hat : At system.server index session pc) (hhand : (inHand pc).isSome = true) :
    (readingStep system (.advance index .all)).isSome = true := by
  unfold At at hat
  obtain ⟨next, hnext⟩ := Option.isSome_iff_exists.mp
    (isSome_advanceThread system.server session hhand .all (system.written index))
  simp only [readingStep, threadedStep, hat, hnext]
  rfl

/-- The thread of a connection comes to rest. -/
theorem ReadingInv.comesToRest (h : ReadingInv system) (hlt : index < system.server.threads.length) :
    ComesToRest system index where
  able := by
    intro session pc hat hrest
    cases (h.streams index session pc hat).place with
    | reading =>
      -- a thread at `read_full` that is not at rest has something to read
      have hunread : (system.streams index).unread ≠ [] := fun hnone => hrest (.inl ⟨rfl, hnone⟩)
      exact ⟨.read index 1 [], rfl, h.able_read hat hunread⟩
    | handling hhand =>
      exact ⟨.advance index .all, rfl, able_advance hat (Option.isSome_iff_exists.mpr ⟨_, hhand⟩)⟩
    | ended hpc => exact absurd (.inr hpc) hrest
    | loggedOut hpc => exact absurd (.inr hpc) hrest
  less := fun _ _ hevent hstep => h.less hevent hstep
  steady := fun _ _ hevent hsend hstep => workLeft_steady hlt hevent hsend hstep

end Progress

/-- **One ack for each request**: in every run the thread of a connection takes the bytes that the
    client sends as blocks of the size of a request, wherever they are cut by `read`, and answers each
    block once, in order and with its id, up to the first logout; it never stops before that. -/
theorem answersBlocks_of_run {userDb : List UInt8} {events : List ReadingEvent}
    {system : ReadingServer}
    (h : Transition.run readingStep (.start userDb) events = some system) :
    ∀ index session pc, At system.server index session pc →
      AnswersBlocks (system.streams index) pc ∧ ComesToRest system index := by
  intro index session pc hat
  have hinv := Transition.run_invariant (fun _ _ _ hinv hstep => ReadingInv.step hinv hstep)
    (readingInv_start userDb) h
  exact ⟨(hinv.streams index session pc hat).answersBlocks, hinv.comesToRest hat.lt_length⟩

/-- The bytes of a request of an unknown type and of a logout request. -/
def twoRequests : List UInt8 :=
  { ChatRequest.zero with messageId := 7 }.toBytes ++
    { ChatRequest.zero with messageId := 8, requestType := RequestType.logout.code }.toBytes

/-- The first request is cut into two parts, and the second part of the stream comes later. -/
def cutReads : List ReadingEvent :=
  [.accept 4, .send 0 (twoRequests.take 1200), .read 0 1000 [], .read 0 164 [], .advance 0 .all,
    .read 0 36 [], .send 0 (twoRequests.drop 1200), .read 0 1128 [], .advance 0 .all]

theorem answersBlocks_cutReads :
    ∃ system, Transition.run readingStep (.start []) cutReads = some system ∧
      ackIds (system.streams 0).responses = [7, 8] ∧
      ∀ index session pc, At system.server index session pc →
        AnswersBlocks (system.streams index) pc ∧ ComesToRest system index := by
  have hids : (Transition.run readingStep (.start []) cutReads).map
      (fun system => ackIds (system.streams 0).responses) = some [7, 8] := by
    decide +kernel
  obtain ⟨system, hsystem, hacks⟩ := Option.map_eq_some_iff.mp hids
  exact ⟨system, hsystem, hacks, answersBlocks_of_run hsystem⟩

end ChatSC.Spec
