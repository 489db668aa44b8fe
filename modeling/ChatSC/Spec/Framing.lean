import ChatSC.Native.ServerWrites
import ChatSC.Spec.Delivery

/-!
# Responses on a shared connection

The client reads its connection in blocks of the size of a response, so what it gets must be whole
responses, one after the other.  `Framed` says so of every connection, up to the part that a
`write_full` has written which is still under way.

Two kinds of step break it; `Undisturbed` excludes them:

* a `write` to a descriptor to which another thread has written a part of its response,
* the `close` of such a descriptor, whose number the next connection may get.

`framed_of_run` shows that there are no others.
-/

namespace ChatSC.Spec

open Native

/-! ## What the client gets -/

/-- A thread is inside `write_full`: it has written a part of the response. -/
def UnderWay (system : WritingServer) (index : Nat) (call : WriteFull) : Prop :=
  (system.pending index).head? = some call ∧ 0 < call.total

/-- The part that a thread inside `write_full` has written to the connection. -/
def PartOf (system : WritingServer) (connection : Nat) (part : List UInt8) : Prop :=
  ∃ index call, UnderWay system index call ∧
    holderOf system.server.threads call.fd = some connection ∧
    call.total < sizeofChatResponse ∧ part = call.response.toBytes.take call.total

/-- Every client gets whole responses that were passed to `write_full`, and at the end the part of
    one that is under way. -/
def Framed (system : WritingServer) : Prop :=
  ∀ connection, ∃ (responses : List ChatResponse) (part : List UInt8),
    (∀ response ∈ responses, response ∈ system.passed.map Write.response) ∧
      system.received connection = responses.flatMap ChatResponse.toBytes ++ part ∧
      (part = [] ∨ PartOf system connection part)

/-! ## The condition -/

/-- No thread is inside `write_full` on the descriptor, apart from the given one. -/
def NoneInside (system : WritingServer) (fd : Nat) (index : Option Nat) : Prop :=
  ∀ other < system.server.threads.length, some other ≠ index →
    ∀ call ∈ (system.pending other).head?, call.fd = fd → call.total = 0

instance (system : WritingServer) (fd : Nat) (index : Option Nat) :
    Decidable (NoneInside system fd index) :=
  inferInstanceAs (Decidable (∀ other < system.server.threads.length, some other ≠ index →
    ∀ call ∈ (system.pending other).head?, call.fd = fd → call.total = 0))

/-- The step disturbs no other thread inside `write_full`: neither does it write to the same
    descriptor nor does it close it. -/
def Undisturbed (system : WritingServer) : WritingEvent → Prop
  | .write index _ =>
    ∀ call ∈ (system.pending index).head?, NoneInside system call.fd (some index)
  | .thread (.advance index _ _) =>
    ∀ thread ∈ system.server.threads[index]?, thread.pc = .closing →
      NoneInside system thread.session.clientFd none
  | .thread _ => True

instance (system : WritingServer) :
    (event : WritingEvent) → Decidable (Undisturbed system event)
  | .write index _ => inferInstanceAs (Decidable
      (∀ call ∈ (system.pending index).head?, NoneInside system call.fd (some index)))
  | .thread (.advance index _ _) => inferInstanceAs (Decidable
      (∀ thread ∈ system.server.threads[index]?, thread.pc = .closing →
        NoneInside system thread.session.clientFd none))
  | .thread (.accept _) | .thread (.read _ _) => inferInstanceAs (Decidable True)

/-! ## Descriptors under a step -/

section Holders

variable {server server' : ThreadedServer} {event : ThreadEvent}

/-- The connection that has a descriptor is the open one with its number. -/
theorem ThreadInv.holderOf_iff (h : ThreadInv server) {fd connection : Nat} :
    holderOf server.threads fd = some connection ↔
      ∃ session pc, At server connection session pc ∧ pc.isOpen = true ∧
        session.clientFd = fd := by
  have hfound : ∀ i, holderOf server.threads fd = some i →
      ∃ session pc, At server i session pc ∧ pc.isOpen = true ∧ session.clientFd = fd := by
    intro i hi
    obtain ⟨hlt, hp, -⟩ := List.findIdx?_eq_some_iff_getElem.mp hi
    simp only [Bool.and_eq_true, decide_eq_true_eq] at hp
    exact ⟨_, _, List.getElem?_eq_getElem hlt, hp.1, hp.2⟩
  constructor
  · exact hfound connection
  · intro ⟨session, pc, hat, hopen, hfd⟩
    cases hholder : holderOf server.threads fd with
    | none => exact absurd hfd (holderOf_eq_none hholder hat hopen)
    | some i =>
      -- two open connections with one number are one
      obtain ⟨session', pc', hat', hopen', hfd'⟩ := hfound i hholder
      rw [h.fds i connection _ _ _ _ hat' hat hopen' hopen (hfd'.trans hfd.symm)]

/-- An open connection stays open with its number when one thread moves and stays open. -/
theorem open_of_set {index : Nat} {session session' : ClientSession} {pc pc' : ThreadPc}
    (hat : At server index session pc)
    (hthreads : server'.threads = server.threads.set index ⟨session', pc'⟩)
    (hfd : session'.clientFd = session.clientFd) (hopen : pc'.isOpen = true)
    {connection : Nat} {s : ClientSession} {p : ThreadPc} (hs : At server connection s p)
    (hp : p.isOpen = true) :
    ∃ s' p', At server' connection s' p' ∧ p'.isOpen = true ∧ s'.clientFd = s.clientFd := by
  by_cases hi : connection = index
  · subst hi
    obtain ⟨rfl, rfl⟩ := hat.unique hs
    exact ⟨session', pc', (at_set hat hthreads).mpr (.inl ⟨rfl, rfl, rfl⟩), hopen, hfd⟩
  · exact ⟨s, p, (at_set hat hthreads).mpr (.inr ⟨hi, hs⟩), hp, rfl⟩

theorem isOpen_of_plain {pc : ThreadPc} (h : Plain pc = true) : pc.isOpen = true :=
  isOpen_of_isLive (plain_isLive h)

/-- Only its own `close` ends a connection. -/
theorem ThreadEffect.stays_open (h : ThreadEffect server event server') {connection : Nat}
    {s : ClientSession} {p : ThreadPc} (hs : At server connection s p) (hp : p.isOpen = true) :
    (p = .closing ∧ ∃ access written, event = .advance connection access written) ∨
      ∃ s' p', At server' connection s' p' ∧ p'.isOpen = true ∧ s'.clientFd = s.clientFd := by
  cases h with
  | accepted hfree honline hthreads =>
    refine .inr ⟨s, p, ?_, hp, rfl⟩
    unfold At
    rw [hthreads]
    exact List.getElem?_append_left (List.getElem?_eq_some_iff.mp hs).1 ▸ hs
  | moved hat _ _ hpc' hsame _ hthreads =>
    exact .inr (open_of_set hat hthreads hsame.clientFd (isOpen_of_plain hpc') hs hp)
  | validated hat _ _ hthreads => exact .inr (open_of_set hat hthreads rfl rfl hs hp)
  | lookedUp hat _ _ hthreads => exact .inr (open_of_set hat hthreads rfl rfl hs hp)
  | reset hat _ _ _ hthreads => exact .inr (open_of_set hat hthreads rfl rfl hs hp)
  | registered hat _ _ _ hthreads => exact .inr (open_of_set hat hthreads rfl rfl hs hp)
  | loggedIn hat _ hthreads => exact .inr (open_of_set hat hthreads rfl rfl hs hp)
  | left hat _ hthreads => exact .inr (open_of_set hat hthreads rfl rfl hs hp)
  | @closed index access written session _ hat _ hthreads =>
    -- a thread that closes does so with its last step
    by_cases hi : connection = index
    · subst hi
      obtain ⟨-, rfl⟩ := hat.unique hs
      exact .inl ⟨rfl, access, written, rfl⟩
    · exact .inr ⟨s, p, (at_set hat hthreads).mpr (.inr ⟨hi, hs⟩), hp, rfl⟩

/-- A descriptor stays with its connection until that is closed. -/
theorem ThreadInv.holder_kept (h : ThreadInv server)
    (hstep : nextThreaded server event = some server') {fd connection : Nat}
    (hholder : holderOf server.threads fd = some connection)
    (hclose : ∀ session access written, At server connection session .closing →
      session.clientFd = fd → event ≠ .advance connection access written) :
    holderOf server'.threads fd = some connection := by
  obtain ⟨s, p, hs, hp, hfd⟩ := h.holderOf_iff.mp hholder
  rcases (threadEffect_of_next hstep).stays_open hs hp with ⟨rfl, access, written, hevent⟩ | hkept
  · exact absurd hevent (hclose s access written hs hfd)
  · obtain ⟨s', p', hs', hp', hfd'⟩ := hkept
    exact (h.step hstep).holderOf_iff.mpr ⟨s', p', hs', hp', hfd'.trans hfd⟩

/-- No thread goes away. -/
theorem ThreadEffect.length_le (h : ThreadEffect server event server') :
    server.threads.length ≤ server'.threads.length := by
  cases h with
  | accepted _ _ hthreads => simp [hthreads]
  | moved _ _ _ _ _ _ hthreads => simp [hthreads]
  | validated _ _ _ hthreads => simp [hthreads]
  | lookedUp _ _ _ hthreads => simp [hthreads]
  | reset _ _ _ _ hthreads => simp [hthreads]
  | registered _ _ _ _ hthreads => simp [hthreads]
  | loggedIn _ _ hthreads => simp [hthreads]
  | left _ _ hthreads => simp [hthreads]
  | closed _ _ hthreads => simp [hthreads]

/-- A thread that advances is there. -/
theorem ThreadEffect.lt_length {index : Nat} {access : FileAccess} {written : Bool}
    (h : ThreadEffect server (.advance index access written) server') :
    index < server.threads.length := by
  have hlt : ∀ {i : Nat} {s : ClientSession} {p : ThreadPc}, At server i s p →
      i < server.threads.length := fun hat => (List.getElem?_eq_some_iff.mp hat).1
  -- each effect names the thread that it is of
  cases h with
  | moved hat hevent _ _ _ _ _ => exact Option.some.inj hevent ▸ hlt hat
  | validated hat _ _ _ => exact hlt hat
  | lookedUp hat _ _ _ => exact hlt hat
  | reset hat _ _ _ _ => exact hlt hat
  | registered hat _ _ _ _ => exact hlt hat
  | loggedIn hat _ _ => exact hlt hat
  | left hat _ _ => exact hlt hat
  | closed hat _ _ => exact hlt hat

end Holders

/-! ## The invariant -/

/-- What every undisturbed step keeps: only the first call of a thread can be under way, on a
    descriptor that is open, and what a client got is whole responses and that call's part. -/
structure FramingInv (system : WritingServer) : Prop where
  threads : ThreadInv system.server
  idle : ∀ index, system.server.threads.length ≤ index → system.pending index = []
  known : ∀ index, ∀ call ∈ system.pending index,
    call.response ∈ system.passed.map Write.response
  short : ∀ index, ∀ call ∈ system.pending index, call.total < sizeofChatResponse
  waiting : ∀ index, ∀ call ∈ (system.pending index).tail, call.total = 0
  held : ∀ index call, UnderWay system index call →
    ∃ connection, holderOf system.server.threads call.fd = some connection
  streams : ∀ connection, ∃ (responses : List ChatResponse) (part : List UInt8),
    (∀ response ∈ responses, response ∈ system.passed.map Write.response) ∧
      system.received connection = responses.flatMap ChatResponse.toBytes ++ part ∧
      (PartOf system connection part ∨ part = [] ∧ ∀ part', ¬ PartOf system connection part')

/-- The last part of the invariant, for one connection. -/
def Streamed (system : WritingServer) (connection : Nat) : Prop :=
  ∃ (responses : List ChatResponse) (part : List UInt8),
    (∀ response ∈ responses, response ∈ system.passed.map Write.response) ∧
      system.received connection = responses.flatMap ChatResponse.toBytes ++ part ∧
      (PartOf system connection part ∨ part = [] ∧ ∀ part', ¬ PartOf system connection part')

theorem framingInv_start (userDb : List UInt8) : FramingInv (.start userDb) where
  threads := threadInv_start userDb
  idle := fun _ _ => rfl
  known := fun _ _ h => absurd h List.not_mem_nil
  short := fun _ _ h => absurd h List.not_mem_nil
  waiting := fun _ _ h => absurd h List.not_mem_nil
  held := fun _ _ h => absurd h.1 (by simp [WritingServer.start])
  streams := by
    intro connection
    refine ⟨[], [], fun _ h => absurd h List.not_mem_nil, rfl, .inr ⟨rfl, ?_⟩⟩
    intro part ⟨index, call, hunder, _⟩
    exact absurd hunder.1 (by simp [WritingServer.start])

/-- What holds along the stream gives the property. -/
theorem FramingInv.framed {system : WritingServer} (h : FramingInv system) : Framed system := by
  intro connection
  obtain ⟨responses, part, hknown, hreceived, hpart⟩ := h.streams connection
  exact ⟨responses, part, hknown, hreceived, hpart.symm.imp_left And.left⟩

/-- A thread that is inside `write_full` is one of the threads. -/
theorem FramingInv.lt_length {system : WritingServer} (h : FramingInv system) {index : Nat}
    {call : WriteFull} (hcall : (system.pending index).head? = some call) :
    index < system.server.threads.length := by
  by_contra hge
  rw [h.idle index (Nat.not_lt.mp hge)] at hcall
  cases hcall

/-! ## Steps of the threads -/

section Thread

variable {system : WritingServer} {event : ThreadEvent} {writes : List Write}

/-- A step of a thread starts no `write`, and ends none. -/
theorem head?_makeCalls (hready : system.ready event = true) {index : Nat} {call : WriteFull}
    (htotal : 0 < call.total) :
    (system.makeCalls event writes index).head? = some call ↔
      (system.pending index).head? = some call := by
  cases event with
  | accept fd => rfl
  | read i request => rfl
  | advance i access written =>
    have hempty : system.pending i = [] := by
      simp only [WritingServer.ready, Bool.and_eq_true, List.isEmpty_iff] at hready
      exact hready.1
    by_cases hi : index = i
    · subst hi
      -- what the step starts has written nothing yet
      have hentered : (writes.map WriteFull.enter).head? ≠ some call := by
        intro hcall
        obtain ⟨write, -, rfl⟩ := List.mem_map.mp (List.mem_of_head? hcall)
        exact absurd htotal (by simp [WriteFull.enter])
      rw [hempty]
      simp only [WritingServer.makeCalls, Function.update_self]
      exact ⟨fun hcall => absurd hcall hentered,
        fun hcall => absurd hcall.symm (Option.some_ne_none call)⟩
    · -- another thread's calls are as they were
      simp [WritingServer.makeCalls, hi]

/-- The calls of a thread after a step of some thread: those from before, or those that it makes. -/
theorem makeCalls_cases (system : WritingServer) (event : ThreadEvent) (writes : List Write)
    (index : Nat) :
    system.makeCalls event writes index = system.pending index ∨
      system.makeCalls event writes index = writes.map WriteFull.enter := by
  cases event with
  | accept fd => exact .inl rfl
  | read i request => exact .inl rfl
  | advance i access written =>
    by_cases hi : index = i
    · subst hi
      exact .inr (Function.update_self ..)
    · exact .inl (Function.update_of_ne hi ..)

theorem mem_makeCalls {index : Nat} {call : WriteFull}
    (h : call ∈ system.makeCalls event writes index) :
    call ∈ system.pending index ∨ ∃ write ∈ writes, call = .enter write := by
  cases makeCalls_cases system event writes index with
  | inl hsame => exact .inl (hsame ▸ h)
  | inr hmade =>
    obtain ⟨write, hwrite, hcall⟩ := List.mem_map.mp (hmade ▸ h)
    exact .inr ⟨write, hwrite, hcall.symm⟩

/-- Calls that wait have written nothing, those that are made neither. -/
theorem mem_tail_makeCalls {index : Nat} {call : WriteFull}
    (h : call ∈ (system.makeCalls event writes index).tail) :
    call ∈ (system.pending index).tail ∨ call.total = 0 := by
  cases makeCalls_cases system event writes index with
  | inl hsame => exact .inl (hsame ▸ h)
  | inr hmade =>
    obtain ⟨write, -, rfl⟩ := List.mem_map.mp (List.mem_of_mem_tail (hmade ▸ h))
    exact .inr rfl

/-- A step of a thread keeps the invariant, when it closes no descriptor under a `write_full`. -/
theorem FramingInv.thread {server : ThreadedServer} (h : FramingInv system)
    (hok : Undisturbed system (.thread event)) (hready : system.ready event = true)
    (hstep : threadedStep system.server event = some (server, writes)) :
    FramingInv { system with
      server := server
      pending := system.makeCalls event writes
      passed := system.passed ++ writes } := by
  have hnext : nextThreaded system.server event = some server := by
    rw [nextThreaded, hstep]
    rfl
  have heffect := threadEffect_of_next hnext
  have hpassed : ∀ {response}, response ∈ system.passed.map Write.response →
      response ∈ (system.passed ++ writes).map Write.response := by
    intro response hresponse
    rw [List.map_append]
    exact List.mem_append_left _ hresponse
  -- a descriptor under a `write_full` is not closed
  have hkept : ∀ {index call connection}, UnderWay system index call →
      holderOf system.server.threads call.fd = some connection →
        holderOf server.threads call.fd = some connection := by
    intro index call connection hunder hholder
    apply h.threads.holder_kept hnext hholder
    intro session access written hat hfd hevent
    subst hevent
    have hother : some index ≠ none := Option.some_ne_none index
    have hnone := hok ⟨session, .closing⟩ hat rfl index (h.lt_length hunder.1) hother call hunder.1
      hfd.symm
    exact absurd hunder.2 (by omega)
  have hpart : ∀ {connection part}, PartOf { system with
        server := server
        pending := system.makeCalls event writes
        passed := system.passed ++ writes } connection part ↔ PartOf system connection part := by
    intro connection part
    constructor
    · rintro ⟨index, call, ⟨hhead, htotal⟩, hholder, hwritten⟩
      have hunder : UnderWay system index call := ⟨(head?_makeCalls hready htotal).mp hhead, htotal⟩
      obtain ⟨before, hbefore⟩ := h.held index call hunder
      have hsame : before = connection := Option.some.inj ((hkept hunder hbefore).symm.trans hholder)
      exact ⟨index, call, hunder, hsame ▸ hbefore, hwritten⟩
    · rintro ⟨index, call, hunder, hholder, hwritten⟩
      exact ⟨index, call, ⟨(head?_makeCalls hready hunder.2).mpr hunder.1, hunder.2⟩,
        hkept hunder hholder, hwritten⟩
  constructor
  case threads => exact h.threads.step hnext
  case idle =>
    intro index hindex
    have hold := h.idle index (Nat.le_trans heffect.length_le hindex)
    cases event with
    | accept fd => exact hold
    | read i request => exact hold
    | advance i access written =>
      have hi : index ≠ i := by
        have hlt := heffect.lt_length
        have hle := heffect.length_le
        have : server.threads.length ≤ index := hindex
        omega
      simpa [WritingServer.makeCalls, hi] using hold
  case known =>
    intro index call hcall
    rcases mem_makeCalls hcall with hold | ⟨write, hwrite, rfl⟩
    · exact hpassed (h.known index call hold)
    · rw [List.map_append]
      exact List.mem_append_right _ (List.mem_map_of_mem hwrite)
  case short =>
    intro index call hcall
    rcases mem_makeCalls hcall with hold | ⟨write, hwrite, rfl⟩
    · exact h.short index call hold
    · exact (by decide : 0 < sizeofChatResponse)
  case waiting =>
    intro index call hcall
    rcases mem_tail_makeCalls hcall with hold | htotal
    · exact h.waiting index call hold
    · exact htotal
  case held =>
    rintro index call ⟨hhead, htotal⟩
    have hunder : UnderWay system index call := ⟨(head?_makeCalls hready htotal).mp hhead, htotal⟩
    obtain ⟨connection, hholder⟩ := h.held index call hunder
    exact ⟨connection, hkept hunder hholder⟩
  case streams =>
    intro connection
    obtain ⟨responses, part, hknown, hreceived, hcase⟩ := h.streams connection
    refine ⟨responses, part, fun r hr => hpassed (hknown r hr), hreceived, ?_⟩
    rcases hcase with hsome | ⟨hempty, hnone⟩
    · exact .inl (hpart.mpr hsome)
    · exact .inr ⟨hempty, fun part' h' => hnone part' (hpart.mp h')⟩

end Thread

/-! ## A `write` -/

section Write

variable {system : WritingServer} {index peer count : Nat} {call : WriteFull}
  {later : List WriteFull}

/-- The first call of the thread that writes, afterwards. -/
theorem head?_pending_writeCall_self {call' : WriteFull}
    (h : ((writeCall system index call later peer count).pending index).head? = some call') :
    call.total + count < sizeofChatResponse ∧ call' = { call with total := call.total + count } ∨
      ¬ call.total + count < sizeofChatResponse ∧ later.head? = some call' := by
  simp only [writeCall, Function.update_self] at h
  split at h
  · rename_i hmore
    exact .inl ⟨hmore, (Option.some.inj h).symm⟩
  · rename_i hdone
    exact .inr ⟨hdone, h⟩

/-- The calls of all other threads are as before. -/
theorem pending_writeCall_of_ne {other : Nat} (h : other ≠ index) :
    (writeCall system index call later peer count).pending other = system.pending other :=
  Function.update_of_ne h _ _

/-- The calls afterwards: those from before, and the one that goes on. -/
theorem mem_pending_writeCall (hpending : system.pending index = call :: later) {other : Nat}
    {call' : WriteFull}
    (h : call' ∈ (writeCall system index call later peer count).pending other) :
    call' ∈ system.pending other ∨
      other = index ∧ call' = { call with total := call.total + count } ∧
        call.total + count < sizeofChatResponse := by
  -- the thread that writes, or another one
  by_cases hother : other = index
  · subst hother
    simp only [writeCall, Function.update_self] at h
    split at h
    · rename_i hmore
      rcases List.mem_cons.mp h with hself | hlater
      · exact .inr ⟨rfl, hself, hmore⟩
      · exact .inl (hpending ▸ List.mem_cons_of_mem call hlater)
    · exact .inl (hpending ▸ List.mem_cons_of_mem call h)
  · rw [pending_writeCall_of_ne hother] at h
    exact .inl h

/-- The calls that wait afterwards waited before. -/
theorem mem_tail_pending_writeCall (hpending : system.pending index = call :: later) {other : Nat}
    {call' : WriteFull}
    (h : call' ∈ ((writeCall system index call later peer count).pending other).tail) :
    call' ∈ (system.pending other).tail := by
  by_cases hother : other = index
  · subst hother
    rw [hpending]
    simp only [writeCall, Function.update_self] at h
    split at h
    · exact h
    · exact List.mem_of_mem_tail h
  · rwa [pending_writeCall_of_ne hother] at h

/-- The bytes of a part and those that are written next are a longer part. -/
theorem take_append_slice (bytes : List UInt8) (total count : Nat) :
    bytes.take total ++ Buffer.slice bytes total count = bytes.take (total + count) :=
  List.take_add.symm

/-- What is under way in another thread is as before. -/
theorem underWay_writeCall_of_ne {other : Nat} {call' : WriteFull} (h : other ≠ index) :
    UnderWay (writeCall system index call later peer count) other call' ↔
      UnderWay system other call' := by
  rw [UnderWay, UnderWay, pending_writeCall_of_ne h]

/-- What is under way afterwards: the call that goes on, and those of the other threads. -/
theorem FramingInv.underWay_writeCall (h : FramingInv system)
    (hpending : system.pending index = call :: later) {other : Nat} {call' : WriteFull}
    (hunder : UnderWay (writeCall system index call later peer count) other call') :
    other = index ∧ call.total + count < sizeofChatResponse ∧
        call' = { call with total := call.total + count } ∨
      other ≠ index ∧ UnderWay system other call' := by
  -- the thread that writes, or another one
  by_cases hother : other = index
  · subst hother
    rcases head?_pending_writeCall_self hunder.1 with ⟨hmore, hcall⟩ | ⟨-, hcall⟩
    · exact .inl ⟨rfl, hmore, hcall⟩
    · -- a call that has waited has written nothing
      have hwaited : call'.total = 0 := by
        apply h.waiting other call'
        rw [hpending]
        exact List.mem_of_head? hcall
      exact absurd hunder.2 (by omega)
  · exact .inr ⟨hother, (underWay_writeCall_of_ne hother).mp hunder⟩

/-- A thread that is inside `write_full` on this connection is the one that writes. -/
theorem FramingInv.eq_of_underWay (h : FramingInv system)
    (hok : Undisturbed system (.write index count))
    (hpending : system.pending index = call :: later)
    (hholder : holderOf system.server.threads call.fd = some peer) {other : Nat}
    {call' : WriteFull} (hunder : UnderWay system other call')
    (hholder' : holderOf system.server.threads call'.fd = some peer) : other = index := by
  by_contra hother
  obtain ⟨session, pc, hat, -, hfd⟩ := h.threads.holderOf_iff.mp hholder
  obtain ⟨session', pc', hat', -, hfd'⟩ := h.threads.holderOf_iff.mp hholder'
  obtain ⟨rfl, rfl⟩ := hat.unique hat'
  have hnone := hok call (by rw [hpending]; rfl) other (h.lt_length hunder.1)
    (fun heq => hother (Option.some.inj heq)) call' hunder.1 (hfd'.symm.trans hfd)
  exact absurd hunder.2 (by omega)

/-- The stream of the connection that is written to. -/
theorem FramingInv.stream_writeCall_self (h : FramingInv system)
    (hok : Undisturbed system (.write index count))
    (hpending : system.pending index = call :: later)
    (hholder : holderOf system.server.threads call.fd = some peer)
    (hcount : 0 < count ∧ count ≤ sizeofChatResponse - call.total) :
    Streamed (writeCall system index call later peer count) peer := by
  have hhead : (system.pending index).head? = some call := by rw [hpending]; rfl
  have hcall : call ∈ system.pending index := hpending ▸ List.mem_cons_self
  obtain ⟨responses, part, hknown, hreceived, hcase⟩ := h.streams peer
  -- the part is what this call has written
  have hpart : part = call.response.toBytes.take call.total := by
    rcases hcase with ⟨other, call', hunder', hholder', -, rfl⟩ | ⟨rfl, hnone⟩
    · have hsame := h.eq_of_underWay hok hpending hholder hunder' hholder'
      subst hsame
      rw [Option.some.inj (hhead.symm.trans hunder'.1)]
    · have htotal : call.total = 0 := by
        by_contra hne
        exact hnone _ ⟨index, call, ⟨hhead, Nat.pos_of_ne_zero hne⟩, hholder,
          h.short index call hcall, rfl⟩
      rw [htotal, List.take_zero]
  have hreceived' : (writeCall system index call later peer count).received peer =
      responses.flatMap ChatResponse.toBytes ++
        call.response.toBytes.take (call.total + count) := by
    simp only [writeCall, Function.update_self]
    rw [hreceived, hpart, List.append_assoc, take_append_slice]
  by_cases hmore : call.total + count < sizeofChatResponse
  · refine ⟨responses, _, hknown, hreceived', .inl ?_⟩
    have hgoesOn : (writeCall system index call later peer count).pending index =
        { call with total := call.total + count } :: later := by
      simp [writeCall, hmore]
    have htotal : 0 < call.total + count := by omega
    exact ⟨index, { call with total := call.total + count }, ⟨by rw [hgoesOn]; rfl, htotal⟩,
      hholder, hmore, rfl⟩
  · -- the response is whole
    have hall : call.total + count = call.response.toBytes.length := by
      rw [ChatResponse.length_toBytes]
      omega
    rw [hall, List.take_length] at hreceived'
    refine ⟨responses ++ [call.response], [], ?_, ?_, .inr ⟨rfl, ?_⟩⟩
    · intro response hresponse
      rcases List.mem_append.mp hresponse with hold | hnew
      · exact hknown response hold
      · rw [List.mem_singleton.mp hnew]
        exact h.known index call hcall
    · rw [hreceived']
      simp
    · intro part' ⟨other, call', hunder', hholder', _⟩
      rcases h.underWay_writeCall hpending hunder' with ⟨-, hlt, -⟩ | ⟨hother, hold⟩
      · exact hmore hlt
      · exact hother (h.eq_of_underWay hok hpending hholder hold hholder')

/-- The streams of the other connections. -/
theorem FramingInv.stream_writeCall_of_ne (h : FramingInv system)
    (hpending : system.pending index = call :: later)
    (hholder : holderOf system.server.threads call.fd = some peer) {connection : Nat}
    (hconnection : connection ≠ peer) :
    Streamed (writeCall system index call later peer count) connection := by
  have hhead : (system.pending index).head? = some call := by rw [hpending]; rfl
  obtain ⟨responses, part, hknown, hreceived, hcase⟩ := h.streams connection
  have hreceived' : (writeCall system index call later peer count).received connection =
      system.received connection := Function.update_of_ne hconnection _ _
  refine ⟨responses, part, hknown, hreceived'.trans hreceived, ?_⟩
  -- a response is under way there, or none is
  rcases hcase with ⟨other, call', hunder', hholder', hwritten⟩ | ⟨hempty, hnone⟩
  · left
    -- the thread that writes has its call for another connection
    have hother : other ≠ index := by
      intro heq
      subst heq
      rw [← Option.some.inj (hhead.symm.trans hunder'.1), hholder] at hholder'
      exact hconnection (Option.some.inj hholder').symm
    exact ⟨other, call', (underWay_writeCall_of_ne hother).mpr hunder', hholder', hwritten⟩
  · right
    refine ⟨hempty, fun part' ⟨other, call', hunder', hholder', hwritten⟩ => ?_⟩
    -- nothing new can be under way there
    rcases h.underWay_writeCall hpending hunder' with ⟨-, -, rfl⟩ | ⟨-, hold⟩
    · exact hconnection (Option.some.inj (hholder'.symm.trans hholder))
    · exact hnone part' ⟨other, call', hold, hholder', hwritten⟩

/-- A `write` to a descriptor that no other thread is inside of keeps the invariant. -/
theorem FramingInv.write (h : FramingInv system) (hok : Undisturbed system (.write index count))
    (hpending : system.pending index = call :: later)
    (hholder : holderOf system.server.threads call.fd = some peer)
    (hcount : 0 < count ∧ count ≤ sizeofChatResponse - call.total) :
    FramingInv (writeCall system index call later peer count) := by
  have hcall : call ∈ system.pending index := hpending ▸ List.mem_cons_self
  constructor
  case threads => exact h.threads
  case idle =>
    intro other hlength
    have hother : other ≠ index := by
      have hlt : index < system.server.threads.length := h.lt_length (by rw [hpending]; rfl)
      have : system.server.threads.length ≤ other := hlength
      omega
    rw [pending_writeCall_of_ne hother]
    exact h.idle other hlength
  case known =>
    intro other call' hcall'
    rcases mem_pending_writeCall hpending hcall' with hold | ⟨-, rfl, -⟩
    · exact h.known other call' hold
    · exact h.known index call hcall
  case short =>
    intro other call' hcall'
    rcases mem_pending_writeCall hpending hcall' with hold | ⟨-, rfl, hmore⟩
    · exact h.short other call' hold
    · exact hmore
  case waiting =>
    intro other call' hcall'
    exact h.waiting other call' (mem_tail_pending_writeCall hpending hcall')
  case held =>
    intro other call' hunder
    rcases h.underWay_writeCall hpending hunder with ⟨-, -, rfl⟩ | ⟨-, hold⟩
    · exact ⟨peer, hholder⟩
    · exact h.held other call' hold
  case streams =>
    intro connection
    -- the stream of the peer grows by the bytes, the others stay
    by_cases hconnection : connection = peer
    · subst hconnection
      exact h.stream_writeCall_self hok hpending hholder hcount
    · exact h.stream_writeCall_of_ne hpending hholder hconnection

end Write

/-! ## Runs -/

/-- An undisturbed step keeps the invariant. -/
theorem FramingInv.step {system system' : WritingServer} {event : WritingEvent}
    (h : FramingInv system) (hok : Undisturbed system event)
    (hstep : writingStep system event = some system') : FramingInv system' := by
  cases event with
  | thread event =>
    simp only [writingStep] at hstep
    split at hstep
    · -- the thread may go on, because its calls have returned
      rename_i hready
      split at hstep
      · cases hstep
      · rename_i server writes hserver
        cases hstep
        exact h.thread hok hready hserver
    · cases hstep
  | write index count =>
    simp only [writingStep] at hstep
    split at hstep
    · cases hstep
    · -- the first of its calls puts some bytes in
      rename_i call later hpending
      split at hstep
      · cases hstep
      · rename_i peer hholder
        split at hstep
        · rename_i hcount
          cases hstep
          exact h.write hok hpending hholder hcount
        · cases hstep

/-- **Every client gets whole responses**, in every state that a run reaches in which no thread
    writes into a response of another thread or closes the descriptor under it. -/
theorem framed_of_run {userDb : List UInt8} {events : List WritingEvent} {system : WritingServer}
    (hok : Transition.Guarded writingStep Undisturbed (.start userDb) events)
    (hrun : Transition.run writingStep (.start userDb) events = some system) : Framed system :=
  (Transition.run_invariant_of_guarded (fun _ _ _ hinv hok hstep => hinv.step hok hstep)
    (framingInv_start userDb) hok hrun).framed

/-! ## What the client reads -/

/-- The blocks that the client reads are responses that were passed to `write_full`. -/
theorem Framed.block {system : WritingServer} (h : Framed system) {connection k : Nat}
    (hread : (k + 1) * sizeofChatResponse ≤ (system.received connection).length) :
    Buffer.slice (system.received connection) (k * sizeofChatResponse) sizeofChatResponse ∈
      system.passed.map fun write => write.response.toBytes := by
  obtain ⟨responses, part, hknown, hreceived, hpart⟩ := h connection
  have hshort : part.length < sizeofChatResponse := by
    rcases hpart with rfl | ⟨index, call, -, -, htotal, rfl⟩
    · decide
    · exact Nat.lt_of_le_of_lt (List.length_take_le _ _) htotal
  have hwhole : (responses.flatMap ChatResponse.toBytes).length =
      responses.length * sizeofChatResponse :=
    Buffer.length_flatMap fun response => ChatResponse.length_toBytes response
  have hk : k < responses.length := by
    rw [hreceived, List.length_append, hwhole] at hread
    -- the part is shorter than a block
    have hlt : (k + 1) * sizeofChatResponse < (responses.length + 1) * sizeofChatResponse := by
      rw [Nat.add_mul responses.length]
      omega
    exact Nat.lt_of_succ_lt_succ (Nat.lt_of_mul_lt_mul_right hlt)
  rw [hreceived, Buffer.slice_flatMap (fun response => ChatResponse.length_toBytes response) hk]
  obtain ⟨write, hwrite, hresponse⟩ := List.mem_map.mp (hknown _ (List.getElem_mem hk))
  exact List.mem_map.mpr ⟨write, hwrite, congrArg ChatResponse.toBytes hresponse⟩

/-! ## Two threads on one connection -/

/-- A connection logs in, and its ack is written at once. -/
def logsIn (index fd : Nat) (username : String) : List WritingEvent :=
  [.thread (.accept fd), .thread (.read index (some (loginAs username "ok"))),
    .thread (.advance index .all true), .thread (.advance index .all true),
    .thread (.advance index .all true), .write index sizeofChatResponse]

/-- `amy` and `bob` are logged in.  A message from `amy` is about to be written to `bob`, and so is
    the ack for a request of his own. -/
def bothWriting : List WritingEvent :=
  logsIn 0 4 "amy" ++ logsIn 1 5 "bob" ++
    [.thread (.read 0 (some (chatTo "bob" "hi"))), .thread (.advance 0 .all true),
      .thread (.advance 0 .all true),
      .thread (.read 1 (some ⟨.zero, []⟩)), .thread (.advance 1 .all true)]

/-- The message is written in two pieces, then the ack. -/
theorem framed_bothWriting :
    ∃ system, Transition.run writingStep (.start amyBobDb)
        (bothWriting ++ [.write 0 100, .write 0 488, .write 1 588]) = some system ∧
      Framed system := by
  have hsome : (Transition.run writingStep (.start amyBobDb)
      (bothWriting ++ [.write 0 100, .write 0 488, .write 1 588])).isSome = true := by
    decide +kernel
  obtain ⟨system, hsystem⟩ := Option.isSome_iff_exists.mp hsome
  exact ⟨system, hsystem, framed_of_run (by decide +kernel) hsystem⟩

/-- The length of what a client got, and whether the block is a response. -/
def readBlock (events : List WritingEvent) (connection k : Nat) : Option (Nat × Bool) :=
  (Transition.run writingStep (.start amyBobDb) events).map fun system =>
    ((system.received connection).length,
      decide (Buffer.slice (system.received connection) (k * sizeofChatResponse)
        sizeofChatResponse ∈ system.passed.map fun write => write.response.toBytes))

/-- When the ack comes between the two pieces, the second block that `bob` reads was never a
    response. -/
theorem bothWriting_not_framed :
    ¬ ∀ (userDb : List UInt8) (events : List WritingEvent) (system : WritingServer),
      Transition.run writingStep (.start userDb) events = some system → Framed system := by
  intro h
  -- the second block of bob begins in the middle of a response
  have hread : readBlock (bothWriting ++ [.write 0 100, .write 1 588, .write 0 488]) 1 1 =
      some (3 * sizeofChatResponse, false) := by
    decide +kernel
  obtain ⟨system, hrun, hblock⟩ := Option.map_eq_some_iff.mp hread
  have hlength : (system.received 1).length = 3 * sizeofChatResponse := congrArg Prod.fst hblock
  have hnone := of_decide_eq_false (congrArg Prod.snd hblock)
  have hfits : (1 + 1) * sizeofChatResponse ≤ (system.received 1).length := by
    rw [hlength]
    decide
  exact hnone ((h amyBobDb _ system hrun).block hfits)

end ChatSC.Spec
