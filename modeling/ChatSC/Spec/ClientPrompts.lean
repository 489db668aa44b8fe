import ChatSC.ForStd.Halting
import ChatSC.Native.TerminalClient
import ChatSC.Spec.TerminalChat

/-!
# The end of the terminal client's input

`prompt_line` makes an empty line of the end of the input.  In a login or a registration an empty
user name or password is refused, and `main` leaves its loops.  The menu, `select_peer` and
`chat_loop` ask again, and since nothing is left to read, they do so for ever
(`promptStep_of_promptsPastEnd`).

Every other prompt reads a byte or ends the login it belongs to, so the client stops exactly when
none of these three prompts meets the end of the input (`finitelyManyPrompts_iff`).
-/

namespace ChatSC.Spec

open Halting Native Stdio

/-- Only finitely many prompts are shown. -/
def FinitelyManyPrompts (inputs : ℕ → ClientInput) (client : TerminalClient) : Prop :=
  {n | (stateAfter promptStep inputs client n).pc.prompting = true}.Finite

/-- The menu, `select_peer` or `chat_loop` prompts, and nothing is left to read. -/
def PromptsPastEnd (client : TerminalClient) : Prop :=
  client.stdin = [] ∧
    (client.pc = .menu ∨ client.pc = .peer ∨ ∃ peerUsername, client.pc = .message peerUsername)

/-! ## What a prompt reads -/

/-- At the end of the input a prompt leaves an empty line. -/
@[simp] theorem promptLine_nil (size : Nat) : promptLine size [] = ([], []) := rfl

/-- Before the end it reads a byte. -/
theorem length_promptLine_lt {size : Nat} (hsize : 2 ≤ size) {stdin : List UInt8}
    (h : stdin ≠ []) : (promptLine size stdin).2.length < stdin.length := by
  simp only [promptLine, fgets, if_neg h]
  exact readLine_rest_length_lt (by omega) h

@[simp] theorem stdin_loop (client : TerminalClient) (input : ClientInput) (pc : ClientPc) :
    (client.loop input pc).stdin = client.stdin := rfl

/-- An exchange reads nothing. -/
theorem stdin_afterAck {client : TerminalClient} {next : ChatResponse → TerminalClient}
    (h : ∀ response, (next response).stdin = client.stdin) (result : AckResult) :
    (client.afterAck result next).stdin = client.stdin := by
  cases result with
  | failed => rfl
  | acked response => exact h response
  | waiting => rfl

theorem stdin_menuLine (client : TerminalClient) (input : ClientInput) (choice : List UInt8) :
    (menuLine client input choice).stdin = client.stdin := by
  unfold menuLine
  split
  · rfl
  · split <;> rfl

theorem stdin_passwordLine (client : TerminalClient) (input : ClientInput)
    (choice username password : List UInt8) :
    (passwordLine client input choice username password).stdin = client.stdin := by
  unfold passwordLine
  split
  · exact stdin_afterAck (fun _ => rfl) _
  · refine stdin_afterAck (fun response => ?_) _
    split <;> rfl

theorem stdin_peerLine (client : TerminalClient) (input : ClientInput)
    (peerUsername : List UInt8) :
    (peerLine client input peerUsername).stdin = client.stdin := by
  unfold peerLine
  split
  · rfl
  split
  · rfl
  · refine stdin_afterAck (fun response => ?_) _
    split <;> rfl

theorem stdin_messageLine (client : TerminalClient) (input : ClientInput)
    (peerUsername line : List UInt8) :
    (messageLine client input peerUsername line).stdin = client.stdin := by
  -- one case for each branch of the source; none of them reads
  unfold messageLine
  split
  · rfl
  · rfl
  · rfl
  · exact stdin_afterAck (fun _ => rfl) _
  · rfl
  · rfl
  · refine stdin_afterAck (fun response => ?_) _
    split
    · rfl
    · split <;> rfl

/-- Behind the loops, and in a wait without end, nothing happens. -/
theorem promptStep_of_not_prompting {client : TerminalClient} (h : client.pc.prompting = false)
    (input : ClientInput) : promptStep client input = client := by
  obtain ⟨stdin, messageId, name, pc⟩ := client
  cases pc with
  | waiting => rfl
  | ended => rfl
  | menu | username _ | password _ _ | peer | message _ => cases h

/-- Every prompt before the end of the input reads a byte of it. -/
theorem length_stdin_promptStep_lt {client : TerminalClient} (hprompt : client.pc.prompting = true)
    (hstdin : client.stdin ≠ []) (input : ClientInput) :
    (promptStep client input).stdin.length < client.stdin.length := by
  -- one case for each of the prompts
  unfold promptStep
  split
  · rw [stdin_menuLine]
    exact length_promptLine_lt (by decide) hstdin
  · exact length_promptLine_lt (by decide) hstdin
  · rw [stdin_passwordLine]
    exact length_promptLine_lt (by decide) hstdin
  · rw [stdin_peerLine]
    exact length_promptLine_lt (by decide) hstdin
  · rw [stdin_messageLine]
    exact length_promptLine_lt (by decide) hstdin
  · -- the client is at no prompt
    rename_i hpc
    exact absurd hprompt (by simp [hpc, ClientPc.prompting])
  · rename_i hpc
    exact absurd hprompt (by simp [hpc, ClientPc.prompting])

/-! ## At the end of the input -/

/-- The menu, `select_peer` and `chat_loop` prompt again. -/
theorem promptStep_of_promptsPastEnd {client : TerminalClient} (h : PromptsPastEnd client)
    {input : ClientInput} (hopen : input.running = true) : promptStep client input = client := by
  obtain ⟨stdin, messageId, username, pc⟩ := client
  obtain ⟨hstdin, hpc⟩ := h
  simp only at hstdin hpc
  subst hstdin
  rcases hpc with rfl | rfl | ⟨peerUsername, rfl⟩
  · show (TerminalClient.mk [] messageId username .menu).loop input .menu = _
    rw [TerminalClient.loop, if_pos hopen]
  · rfl
  · show (TerminalClient.mk [] messageId username (.message peerUsername)).loop input
      (.message peerUsername) = _
    rw [TerminalClient.loop, if_pos hopen]

/-- A request without a password is not formatted. -/
theorem submitAuthRequest_nil (input : ClientInput) (messageId : UInt32) {requestType : RequestType}
    (htype : requestType = .authLogin ∨ requestType = .authRegister) (username : List UInt8) :
    submitAuthRequest input messageId requestType username [] = (.failed, messageId + 1) := by
  have hfirst : (CharArray.ofStr chatMaxPassword []).first = 0 := by decide
  have hformat : formatDeviceRequest messageId requestType .sha1 (some username) none (some [])
      none none = none := by
    unfold formatDeviceRequest
    exact if_pos ⟨htype, .inr hfirst⟩
  simp only [submitAuthRequest, processMessage, hformat]

/-- A login or a registration whose password is missing ends the loops. -/
theorem pc_passwordLine_nil (client : TerminalClient) (input : ClientInput)
    (choice username : List UInt8) :
    (passwordLine client input choice username []).pc = .ended := by
  unfold passwordLine
  split
  · rw [submitAuthRequest_nil input _ (.inr rfl)]
    rfl
  · rw [submitAuthRequest_nil input _ (.inl rfl)]
    rfl

/-! ## A server that answers -/

/-- The server answers the request and keeps the connection open. -/
def Answers (request : ChatRequest) (io : AckIo) : Prop :=
  io.written = true ∧ (∀ look ∈ io.looks, look.running = true) ∧
    ∃ look ∈ io.looks, look.ackReady = true ∧ look.lastAck.messageId = request.messageId

/-- It answers every request. -/
def Attends (input : ClientInput) : Prop :=
  input.running = true ∧ ∀ request, Answers request (input.server request)

/-- The client gets the answer. -/
theorem acked_of_answers {request : ChatRequest} {io : AckIo} (h : Answers request io) :
    ∃ response, sendRequestAndWaitAck request io = .acked response := by
  obtain ⟨hwritten, hrunning, hanswer⟩ := h
  rw [sendRequestAndWaitAck, if_pos hwritten]
  -- induction on the times the client wakes up
  generalize io.looks = looks at hrunning hanswer
  induction looks with
  | nil =>
    obtain ⟨look, hlook, -⟩ := hanswer
    exact absurd hlook List.not_mem_nil
  | cons look looks ih =>
    have hhead : look.running = true := hrunning look List.mem_cons_self
    by_cases hready : look.ackReady = true ∧ look.lastAck.messageId = request.messageId
    · have hstop : ¬ (look.running = true ∧
          (¬ look.ackReady = true ∨ look.lastAck.messageId ≠ request.messageId)) := by
        simp [hready]
      rw [waitAck, if_neg hstop, if_neg (not_not_intro hhead)]
      exact ⟨look.lastAck, rfl⟩
    · -- this wake-up is not for the ack of the request
      obtain ⟨found, hfound, hfoundReady⟩ := hanswer
      rw [waitAck, if_pos ⟨hhead, not_and_or.mp hready⟩]
      refine ih (fun l hl => hrunning l (List.mem_cons_of_mem look hl)) ⟨found, ?_, hfoundReady⟩
      rcases List.mem_cons.mp hfound with rfl | hlater
      · exact absurd hfoundReady hready
      · exact hlater

/-- A loop over `runtime.running` waits for no ack. -/
theorem pc_loop_ne_waiting (client : TerminalClient) (input : ClientInput) {pc : ClientPc}
    (h : pc ≠ .waiting) : (client.loop input pc).pc ≠ .waiting := by
  unfold TerminalClient.loop
  split
  · exact h
  · simp

/-- After an exchange that is answered the client goes on. -/
theorem pc_afterAck_ne_waiting {client : TerminalClient} {result : AckResult}
    (hresult : result ≠ .waiting) {next : ChatResponse → TerminalClient}
    (hnext : ∀ response, (next response).pc ≠ .waiting) :
    (client.afterAck result next).pc ≠ .waiting := by
  cases result with
  | failed => simp [TerminalClient.afterAck]
  | acked response => exact hnext response
  | waiting => exact absurd rfl hresult

theorem pc_menuLine_ne_waiting (client : TerminalClient) (input : ClientInput)
    (choice : List UInt8) : (menuLine client input choice).pc ≠ .waiting := by
  unfold menuLine
  split
  · simp
  split
  · exact pc_loop_ne_waiting _ _ (by simp)
  · simp

section Attends

variable {input : ClientInput}

theorem sendRequestAndWaitAck_ne_waiting (h : Attends input) (request : ChatRequest) :
    sendRequestAndWaitAck request (input.server request) ≠ .waiting := by
  obtain ⟨response, hacked⟩ := acked_of_answers (h.2 request)
  rw [hacked]
  simp

theorem submitAuthRequest_ne_waiting (h : Attends input) (messageId : UInt32)
    (requestType : RequestType) (username password : List UInt8) :
    (submitAuthRequest input messageId requestType username password).1 ≠ .waiting := by
  unfold submitAuthRequest
  split
  · simp
  split
  · simp
  · rename_i request _
    have hsent := sendRequestAndWaitAck_ne_waiting h request
    split
    · simp
    · exact hsent

theorem pc_passwordLine_ne_waiting (h : Attends input) (client : TerminalClient)
    (choice username password : List UInt8) :
    (passwordLine client input choice username password).pc ≠ .waiting := by
  unfold passwordLine
  split
  · exact pc_afterAck_ne_waiting (submitAuthRequest_ne_waiting h _ _ _ _) fun _ =>
      pc_loop_ne_waiting _ _ (by simp)
  · refine pc_afterAck_ne_waiting (submitAuthRequest_ne_waiting h _ _ _ _) fun response => ?_
    split <;> exact pc_loop_ne_waiting _ _ (by simp)

theorem pc_peerLine_ne_waiting (h : Attends input) (client : TerminalClient)
    (peerUsername : List UInt8) : (peerLine client input peerUsername).pc ≠ .waiting := by
  unfold peerLine
  split
  · simp
  split
  · simp
  · refine pc_afterAck_ne_waiting (sendRequestAndWaitAck_ne_waiting h _) fun response => ?_
    split
    · exact pc_loop_ne_waiting _ _ (by simp)
    · simp

theorem pc_messageLine_ne_waiting (h : Attends input) (client : TerminalClient)
    (peerUsername line : List UInt8) :
    (messageLine client input peerUsername line).pc ≠ .waiting := by
  -- a line is sent, or the client is back at its prompt
  unfold messageLine
  split
  · exact pc_loop_ne_waiting _ _ (by simp)
  · exact pc_loop_ne_waiting _ _ (by simp)
  · simp
  · exact pc_afterAck_ne_waiting (sendRequestAndWaitAck_ne_waiting h _) fun _ => by simp
  · exact pc_loop_ne_waiting _ _ (by simp)
  · exact pc_loop_ne_waiting _ _ (by simp)
  · refine pc_afterAck_ne_waiting (sendRequestAndWaitAck_ne_waiting h _) fun response => ?_
    split
    · exact pc_loop_ne_waiting _ _ (by simp)
    · split <;> exact pc_loop_ne_waiting _ _ (by simp)

/-- The client never waits for ever. -/
theorem pc_promptStep_ne_waiting (h : Attends input) {client : TerminalClient}
    (hpc : client.pc ≠ .waiting) : (promptStep client input).pc ≠ .waiting := by
  unfold promptStep
  split
  · exact pc_menuLine_ne_waiting _ _ _
  · simp
  · exact pc_passwordLine_ne_waiting h _ _ _ _
  · exact pc_peerLine_ne_waiting h _ _
  · exact pc_messageLine_ne_waiting h _ _ _
  · exact hpc
  · exact hpc

end Attends

/-- In a run with a server that answers, the client never waits for ever. -/
theorem pc_stateAfter_ne_waiting (setup : ClientSetup) (stdin : List UInt8)
    {inputs : ℕ → ClientInput} (hattends : ∀ n, Attends (inputs n)) (n : ℕ) :
    (stateAfter promptStep inputs (.start setup stdin) n).pc ≠ .waiting := by
  induction n with
  | zero =>
    simp only [stateAfter, TerminalClient.start]
    split <;> simp
  | succ n ih => exact pc_promptStep_ne_waiting (hattends n) ih

/-! ## Runs -/

/-- The prompts that follow in the login under way. -/
def promptsAhead : ClientPc → ℕ
  | .username _ => 2
  | .password _ _ => 1
  | _ => 0

/-- What is left to read, and the login under way. -/
def promptMeasure (client : TerminalClient) : ℕ := 3 * client.stdin.length + promptsAhead client.pc

/-- Before the end of the input every prompt makes the measure smaller, and behind it those of a
    login do. -/
theorem promptMeasure_promptStep_lt {client : TerminalClient} (hprompt : client.pc.prompting = true)
    (hend : ¬ PromptsPastEnd client) {input : ClientInput}
    (hnext : (promptStep client input).pc.prompting = true) :
    promptMeasure (promptStep client input) < promptMeasure client := by
  by_cases hstdin : client.stdin = []
  · -- behind the end only a login goes on, up to its password
    obtain ⟨stdin, messageId, name, pc⟩ := client
    simp only at hstdin
    subst hstdin
    cases pc with
    | menu => exact absurd ⟨rfl, .inl rfl⟩ hend
    | username choice => exact Nat.lt_succ_self 1
    | password choice username =>
      rw [show (promptStep ⟨[], messageId, name, .password choice username⟩ input).pc = .ended from
        pc_passwordLine_nil _ input choice username] at hnext
      cases hnext
    | peer => exact absurd ⟨rfl, .inr (.inl rfl)⟩ hend
    | message peerUsername => exact absurd ⟨rfl, .inr (.inr ⟨peerUsername, rfl⟩)⟩ hend
    | waiting => cases hprompt
    | ended => cases hprompt
  · -- a byte counts for more than all that is ahead in a login
    have hlt := length_stdin_promptStep_lt hprompt hstdin input
    have hahead : promptsAhead (promptStep client input).pc ≤ 2 := by
      unfold promptsAhead
      split <;> omega
    simp only [promptMeasure]
    omega

/-- The client under a connection that stays open. -/
theorem progressing_promptStep :
    Progressing promptStep (fun input => input.running = true)
      (fun client => client.pc.prompting = true) PromptsPastEnd promptMeasure where
  active_of_step client input h := by
    by_contra hprompt
    rw [promptStep_of_not_prompting (Bool.not_eq_true _ ▸ hprompt)] at h
    exact hprompt h
  stuck_step client input hopen h := by
    rw [promptStep_of_promptsPastEnd h hopen]
    exact h
  active_of_stuck client h := by
    rcases h.2 with hpc | hpc | ⟨peerUsername, hpc⟩ <;> rw [hpc] <;> rfl
  decreases client input _ hprompt hend hnext := promptMeasure_promptStep_lt hprompt hend hnext

/-- If none of the three prompts meets the end of the input, and the server answers, `main` leaves
    its loops, after at most three prompts for every byte of the input and one more. -/
theorem ended_of_notPastEnd (setup : ClientSetup) {stdin : List UInt8} {inputs : ℕ → ClientInput}
    (hattends : ∀ n, Attends (inputs n))
    (hend : ∀ n, ¬ PromptsPastEnd (stateAfter promptStep inputs (.start setup stdin) n)) {n : ℕ}
    (hn : 3 * stdin.length < n) :
    (stateAfter promptStep inputs (.start setup stdin) n).pc = .ended := by
  have hmeasure : promptMeasure (.start setup stdin) = 3 * stdin.length := by
    simp only [promptMeasure, TerminalClient.start]
    split <;> rfl
  have hprompt : ¬ (stateAfter promptStep inputs (.start setup stdin) n).pc.prompting = true :=
    progressing_promptStep.not_active_stateAfter (fun n => (hattends n).1) hend (hmeasure ▸ hn)
  have hwaiting := pc_stateAfter_ne_waiting setup stdin hattends n
  -- the client has stopped prompting, and it does not wait for ever
  cases hpc : (stateAfter promptStep inputs (.start setup stdin) n).pc with
  | waiting => exact absurd hpc hwaiting
  | ended => rfl
  | menu | username _ | password _ _ | peer | message _ => exact absurd (by rw [hpc]; rfl) hprompt

/-! ## When the client stops -/

/-- A client that is connected. -/
def connectedSetup : ClientSetup := ⟨true, true, true, true⟩

/-- A server that acks every request. -/
def ackingInput : ClientInput where
  running := true
  backend := localBackend
  after := []
  server request := ⟨true, [⟨true, true, ackResponse request.messageId⟩]⟩

theorem attends_ackingInput : Attends ackingInput :=
  ⟨rfl, fun request => ⟨rfl, by simp [ackingInput],
    ⟨true, true, ackResponse request.messageId⟩, by simp [ackingInput], rfl, rfl⟩⟩

/-- **Finitely many prompts.**  While the connection stays open, `main` performs only finitely many
    prompts exactly when the menu, `select_peer` and `chat_loop` never prompt at the end of the
    input. -/
theorem finitelyManyPrompts_iff (setup : ClientSetup) (stdin : List UInt8)
    {inputs : ℕ → ClientInput} (hopen : ∀ n, (inputs n).running = true) :
    FinitelyManyPrompts inputs (.start setup stdin) ↔
      ∀ n, ¬ PromptsPastEnd (stateAfter promptStep inputs (.start setup stdin) n) :=
  progressing_promptStep.finite_active_iff hopen

/-- A client that is told to exit. -/
theorem finitelyManyPrompts_exit :
    FinitelyManyPrompts (fun _ => ackingInput) (.start connectedSetup (ascii "3\n")) := by
  refine (finitelyManyPrompts_iff connectedSetup (ascii "3\n") (fun _ => rfl)).mpr fun n hend => ?_
  cases n with
  | zero => exact absurd hend.1 (by decide)
  | succ n =>
    have hprompt := progressing_promptStep.active_of_stuck _ hend
    exact absurd (progressing_promptStep.active_of_le hprompt (Nat.le_add_left 1 n)) (by decide)

/-- With no input at all, the client shows its menu for ever. -/
theorem menu_forever :
    Attends ackingInput ∧
      ¬ FinitelyManyPrompts (fun _ => ackingInput) (.start connectedSetup []) := by
  refine ⟨attends_ackingInput, fun hfinite => ?_⟩
  have hmenu : PromptsPastEnd (.start connectedSetup []) := ⟨rfl, .inl rfl⟩
  exact (progressing_promptStep.finite_active_iff (fun _ => rfl)).mp hfinite 0 hmenu

end ChatSC.Spec
