import ChatSC.Spec.FormerMembers
import ChatSC.Spec.GatewayRuns
import ChatSC.Spec.StoredMessages

/-!
# Encryption at rest

`sendMessage` stores what the processor has made of a text, `sendAiBotMessage` stores the text.  With
a note of the text of every new message, `encryptedAtRest_iff` says that along a run every text is
stored encrypted exactly when no reply of the chat bot is stored.
-/

namespace ChatSC.Spec

open Backend Collection JsString Native Records Transition

/-! ## The texts of messages -/

/-- The text that a message was created with. -/
structure CreatedText where
  id : ObjectId
  text : JsString
deriving DecidableEq

/-- The text of the message that the next step of a task creates. -/
def createdText? : GatewayTask → Option JsString
  | .request (.sendMessage args (.creating _ _ _ _)) => some (trim args.content)
  | .sendMessage args _ (.sending (.creating _ _ _ _)) => some (trim args.content)
  | .chatbot _ _ (.sending args .start) =>
    match ObjectId.ofString? args.conversationId, ObjectId.ofString? args.requesterId with
    | some _, some _ => some args.content
    | _, _ => none
  | _ => none

/-- The note of a step that creates a message. -/
def noteText (gateway : ChatGateway) : GatewayEvent → Option CreatedText
  | .step index input =>
    match gateway.tasks[index]? with
    | some task => (createdText? task).map fun text => ⟨input.call.newId, text⟩
    | none => none
  | _ => none

/-- The gateway with a note of the text of every new message. -/
def notingTexts (env : BackendEnv) (config : AiConfig) :
    ChatGateway × List CreatedText → GatewayEvent → Option (ChatGateway × List CreatedText) :=
  noting (gatewayStep env config) noteText

/-- A task of `sendMessage` before the creation. -/
theorem createdText?_send {task : GatewayTask} {args : SendArgs} {ctx : SendContext}
    {attachment : Option ChatAttachment} {encrypted : EncryptedContent} {sentAt : Date}
    (h : sendCall? task = some (args, .creating ctx attachment encrypted sentAt)) :
    createdText? task = some (trim args.content) := by
  unfold sendCall? at h
  split at h
  · cases h
    rfl
  · cases h
    rfl
  · cases h

/-- A step that creates a message has a text. -/
theorem Creates.createdText? {input : CallInput} {task : GatewayTask} {message : Message}
    (h : Creates input task message) : ∃ text, createdText? task = some text := by
  cases h with
  | send args ctx attachment encrypted sentAt htask =>
    exact ⟨trim args.content, createdText?_send htask⟩
  | chatbot s u args c r hc hr =>
    refine ⟨args.content, ?_⟩
    simp only [Spec.createdText?, hc, hr]

/-- A step that creates no message has no text. -/
theorem createdText?_eq_none {input : CallInput} {task : GatewayTask}
    (h : ∀ message, ¬ Creates input task message) : createdText? task = none := by
  unfold createdText?
  split
  · rename_i args ctx attachment encrypted sentAt
    exact absurd (.send args ctx attachment encrypted sentAt rfl) (h _)
  · rename_i args fromSocket ctx attachment encrypted sentAt
    exact absurd (.send args ctx attachment encrypted sentAt rfl) (h _)
  · rename_i s u args
    split
    · rename_i c r hc hr
      exact absurd (.chatbot s u args c r hc hr) (h _)
    · rfl
  · rfl

/-! ## What is stored -/

/-- What the remote processor makes of a text. -/
def IsProcessed (env : BackendEnv) (text stored : JsString) : Prop :=
  ∃ (io : ExchangeIo) (service : ChatEncryptionService) (context : EncryptionContext),
    (processRemote env io service processSubstitution text context
      "REVERSE_ENCRYPTION_UNAVAILABLE" "Không thể mã hoá ngược tin nhắn để lưu trữ").2 =
        .resolved stored

/-- Every message that was created with a text is stored encrypted, with what the processor has made
    of the text. -/
def EncryptedAtRest (env : BackendEnv) (state : ChatGateway × List CreatedText) : Prop :=
  ∀ message ∈ state.1.db.messages, ∃ note ∈ state.2, note.id = message.id ∧
    (note.text ≠ [] →
      message.reverseEncryptionState = .encrypted ∧ IsProcessed env note.text message.content)

/-- The step does not store a text as the reply of the chat bot. -/
def StoresNoReply (gateway : ChatGateway) : GatewayEvent → Prop
  | .step index _ => ∀ s u pc text, gateway.tasks[index]? = some (.chatbot s u pc) →
    createdText? (.chatbot s u pc) = some text → text = []
  | _ => True

/-- With encryption enabled, `encryptForStorage` resolves with what the processor has made. -/
theorem isProcessed_of_encryptForStorage {env : BackendEnv}
    (henabled : env.chatReverseEncryptionEnabled = true) {io : ExchangeIo}
    {service : ChatEncryptionService} {content : JsString} {context : EncryptionContext}
    {stored : EncryptedContent}
    (h : (encryptForStorage env io service content context).2 = .resolved stored) :
    stored.reverseEncryptionState = .encrypted ∧ IsProcessed env content stored.content := by
  simp only [encryptForStorage, henabled, Bool.not_true, Bool.false_eq_true, if_false] at h
  cases hremote : (processRemote env io service processSubstitution content context
      "REVERSE_ENCRYPTION_UNAVAILABLE"
      "Không thể mã hoá ngược tin nhắn để lưu trữ").2 with
  | pending =>
    rw [hremote] at h
    cases h
  | rejected error =>
    rw [hremote] at h
    cases h
  | resolved payload =>
    rw [hremote] at h
    obtain rfl := Promise.resolved.inj h
    exact ⟨rfl, io, service, context, hremote⟩

/-! ## What `sendMessage` has in its hands -/

/-- A text that is about to be stored is encrypted. -/
def SendPc.Encrypts (env : BackendEnv) (args : SendArgs) : SendPc → Prop
  | .creating _ _ encrypted _ => trim args.content ≠ [] →
    encrypted.reverseEncryptionState = .encrypted ∧
      IsProcessed env (trim args.content) encrypted.content
  | _ => True

theorem encrypts_sendEncrypt {env : BackendEnv} (args : SendArgs) (ctx : SendContext)
    (attachment : Option ChatAttachment) (now : Date) :
    SendPc.Encrypts env args (sendEncrypt args ctx attachment now) := by
  unfold sendEncrypt
  split
  · trivial
  · split
    · trivial
    · rename_i hempty
      exact fun hne => absurd hne hempty

theorem encrypts_sendAttachment {env : BackendEnv} (args : SendArgs) (ctx : SendContext)
    (now : Date) : SendPc.Encrypts env args (sendAttachment args ctx now) := by
  unfold sendAttachment
  split
  · exact encrypts_sendEncrypt args ctx none now
  · split <;> trivial

theorem SendPc.Encrypts.step {env : BackendEnv} (henabled : env.chatReverseEncryptionEnabled = true)
    {db db' : ChatDb} {args : SendArgs} {input : CallInput} {pc pc' : SendPc}
    (h : sendStep env db args input pc = some (db', pc')) : SendPc.Encrypts env args pc' := by
  cases sendStep_cases h with
  | notDirect ctx => exact encrypts_sendAttachment args ctx input.now
  | nothingToRestore ctx => exact encrypts_sendAttachment args ctx input.now
  | refetched ctx toRestore => exact encrypts_sendAttachment args _ input.now
  | attachment ctx attachment found hfound =>
    exact encrypts_sendEncrypt args ctx (some found) input.now
  | encrypted ctx attachment encrypted hencrypted =>
    exact fun _ => isProcessed_of_encryptForStorage henabled hencrypted
  | _ => trivial

/-- A call of `sendMessage` that a task makes stores its text encrypted. -/
def StoresEncrypted (env : BackendEnv) (task : GatewayTask) : Prop :=
  ∀ args pc, sendCall? task = some (args, pc) → SendPc.Encrypts env args pc

/-- A task that makes no call of `sendMessage`. -/
theorem StoresEncrypted.of_none {env : BackendEnv} {task : GatewayTask}
    (h : sendCall? task = none) : StoresEncrypted env task := by
  intro args pc hcall
  rw [h] at hcall
  cases hcall

theorem StoresEncrypted.of_unstarted {env : BackendEnv} {task : GatewayTask} (h : Unstarted task) :
    StoresEncrypted env task := by
  cases h with
  | request call hcall =>
    cases call with
    | sendMessage args pc => cases hcall
    | _ => exact .of_none rfl
  | sendMessage args fromSocket =>
    intro args' pc hcall
    cases hcall
    trivial
  | _ => exact .of_none rfl

theorem StoresEncrypted.step {env : BackendEnv} (henabled : env.chatReverseEncryptionEnabled = true)
    {config : AiConfig} {db : ChatDb} {sockets : List ChatSocket} {input : GatewayInput}
    {task : GatewayTask} {next : TaskStep}
    (h : TaskMove env config db sockets input task next) : StoresEncrypted env next.task := by
  cases h with
  | request call call' db' hcall =>
    cases callStep_cases hcall with
    | sendMessage hstep =>
      intro args pc hcall'
      cases hcall'
      exact SendPc.Encrypts.step henabled hstep
    | _ => exact .of_none rfl
  | sending args fromSocket pc pc' db' hsend =>
    intro args' pc'' hcall
    obtain ⟨rfl, rfl⟩ := sendCall?_afterSend hcall
    exact SendPc.Encrypts.step henabled hsend
  | answering s userId args pc pc' db' hsend => exact .of_none (sendCall?_afterAiBot s userId args pc')
  | _ => exact .of_none rfl

/-! ## Runs -/

/-- What holds in every state of a run in which no reply of the chat bot is stored. -/
structure AtRestInv (env : BackendEnv) (state : ChatGateway × List CreatedText) : Prop where
  atRest : EncryptedAtRest env state
  noted : ∀ note ∈ state.2, note.id ∈ state.1.db.messages.map Message.id
  tasks : ∀ task ∈ state.1.tasks, StoresEncrypted env task

/-- An encrypted message stays one, whoever sees it. -/
theorem EncryptedAtRest.congr {env : BackendEnv} {state state' : ChatGateway × List CreatedText}
    (h : EncryptedAtRest env state)
    (hmessages : state'.1.db.messages.map unseen = state.1.db.messages.map unseen)
    (hnotes : state.2 ⊆ state'.2) : EncryptedAtRest env state' := by
  intro message hmessage
  have hmem : unseen message ∈ state.1.db.messages.map unseen :=
    hmessages ▸ List.mem_map_of_mem hmessage
  obtain ⟨old, hold, heq⟩ := List.mem_map.mp hmem
  obtain ⟨note, hnote, hid, htext⟩ := h old hold
  have hsameid : (unseen old).id = (unseen message).id := congrArg Message.id heq
  have hsamestate : (unseen old).reverseEncryptionState = (unseen message).reverseEncryptionState :=
    congrArg Message.reverseEncryptionState heq
  have hsamecontent : (unseen old).content = (unseen message).content := congrArg Message.content heq
  refine ⟨note, hnotes hnote, hid.trans hsameid, fun hne => ?_⟩
  obtain ⟨hstate, hprocessed⟩ := htext hne
  exact ⟨hsamestate.symm.trans hstate, hsamecontent ▸ hprocessed⟩

/-- A message of a call that stores its text encrypted. -/
theorem encrypted_of_creates {env : BackendEnv} {input : CallInput} {task : GatewayTask}
    {message : Message} {text : JsString} (hcreates : Creates input task message)
    (htext : createdText? task = some text) (htask : StoresEncrypted env task)
    (hreply : ∀ s u pc, task = .chatbot s u pc → text = []) (hne : text ≠ []) :
    message.reverseEncryptionState = .encrypted ∧ IsProcessed env text message.content := by
  cases hcreates with
  | send args ctx attachment encrypted sentAt hcall =>
    rw [createdText?_send hcall] at htext
    obtain rfl := Option.some.inj htext
    exact htask _ _ hcall hne
  | chatbot s u args c r hc hr => exact absurd (hreply s u _ rfl) hne

/-- A step that stores no reply keeps the invariant. -/
theorem AtRestInv.step {env : BackendEnv} (henabled : env.chatReverseEncryptionEnabled = true)
    {config : AiConfig} {state state' : ChatGateway × List CreatedText} {event : GatewayEvent}
    (hinv : AtRestInv env state) (hok : StoresNoReply state.1 event)
    (h : notingTexts env config state event = some state') : AtRestInv env state' := by
  obtain ⟨hstep, hnotes⟩ := noting_eq_some.mp h
  have hmove := gatewayStep_cases hstep
  have htasks : ∀ task ∈ state'.1.tasks, StoresEncrypted env task :=
    hmove.forall_tasks hinv.tasks (fun _ => .of_unstarted) (fun _ htask => htask)
      fun _ _ _ _ _ _ htask _ => ⟨StoresEncrypted.step henabled htask,
        fun _ hspawned => .of_none (sendCall?_spawned htask hspawned)⟩
  -- the step adds a note exactly when it adds a message
  generalize hgateway : state'.1 = gateway' at hmove
  cases hmove with
  | outside event sockets new hevent hnew =>
    -- nothing is created by what comes from outside
    have hnone : noteText state.1 event = none := by
      cases event with
      | step index input => exact absurd rfl (hevent index input)
      | _ => rfl
    rw [hnone, Option.toList_none, List.append_nil] at hnotes
    refine ⟨hinv.atRest.congr ?_ ?_, ?_, htasks⟩
    · rw [hgateway]
    · rw [hnotes]
      exact fun _ hnote => hnote
    · rw [hnotes, hgateway]
      exact hinv.noted
  | task index input task next htask hmove =>
    have hnote : noteText state.1 (.step index input) =
        (createdText? task).map fun text => ⟨input.call.newId, text⟩ := by
      simp only [noteText, htask]
    rw [hnote] at hnotes
    generalize hdb : next.db = db' at hgateway
    have heffect := messageEffect hmove
    rw [hdb] at heffect
    cases heffect with
    | quiet hmessages hnone =>
      rw [createdText?_eq_none hnone, Option.map_none, Option.toList_none, List.append_nil]
        at hnotes
      refine ⟨hinv.atRest.congr ?_ ?_, ?_, htasks⟩
      · rw [hgateway]
        exact hmessages
      · rw [hnotes]
        exact fun _ hnote => hnote
      · rw [hnotes, hgateway, ids_of_unseen hmessages]
        exact hinv.noted
    | created message hcreates hfresh =>
      obtain ⟨text, htext⟩ := hcreates.createdText?
      rw [htext, Option.map_some, Option.toList_some] at hnotes
      refine ⟨?_, ?_, htasks⟩
      · intro other hother
        rw [hgateway] at hother
        rcases List.mem_append.mp hother with hold | hnew
        · -- an older message keeps its note
          obtain ⟨note, hmem, hrest⟩ := hinv.atRest other hold
          exact ⟨note, hnotes ▸ List.mem_append_left _ hmem, hrest⟩
        · obtain rfl := List.mem_singleton.mp hnew
          refine ⟨_, hnotes ▸ List.mem_append_right _ List.mem_cons_self, hcreates.id_eq.symm, ?_⟩
          apply encrypted_of_creates hcreates htext (hinv.tasks task (List.mem_of_getElem? htask))
          rintro s u pc rfl
          exact hok s u pc text htask htext
      · intro note hmem
        rw [hnotes] at hmem
        rw [hgateway]
        show note.id ∈ (state.1.db.messages ++ [message]).map Message.id
        rw [List.map_append]
        rcases List.mem_append.mp hmem with hold | hnew
        · exact List.mem_append_left _ (hinv.noted note hold)
        · obtain rfl := List.mem_singleton.mp hnew
          exact List.mem_append_right _ (List.mem_singleton.mpr hcreates.id_eq.symm)

/-- A reply that is stored is not encrypted. -/
theorem AtRestInv.broken {env : BackendEnv} {config : AiConfig}
    {state state' : ChatGateway × List CreatedText} {event : GatewayEvent}
    (hinv : AtRestInv env state) (hno : ¬ StoresNoReply state.1 event)
    (h : notingTexts env config state event = some state') : ¬ EncryptedAtRest env state' := by
  intro hrest
  apply hno
  obtain ⟨hstep, hnotes⟩ := noting_eq_some.mp h
  have hmove := gatewayStep_cases hstep
  generalize hgateway : state'.1 = gateway' at hmove
  cases hmove with
  | outside event sockets new hevent hnew =>
    cases event with
    | step index input => exact absurd rfl (hevent index input)
    | _ => trivial
  | task index input task next htask hmove =>
    intro s u pc text hchatbot htext
    obtain rfl : task = .chatbot s u pc := Option.some.inj (htask.symm.trans hchatbot)
    have hnote : noteText state.1 (.step index input) = some ⟨input.call.newId, text⟩ := by
      simp only [noteText, htask, htext, Option.map_some]
    rw [hnote, Option.toList_some] at hnotes
    generalize hdb : next.db = db' at hgateway
    have heffect := messageEffect hmove
    rw [hdb] at heffect
    cases heffect with
    -- a step that stores a text creates a message
    | quiet hmessages hnone =>
      rw [createdText?_eq_none hnone] at htext
      cases htext
    | created message hcreates hfresh =>
      by_contra hne
      have hmem : message ∈ state'.1.db.messages := by
        rw [hgateway]
        exact List.mem_append_right _ List.mem_cons_self
      obtain ⟨note, hnote, hid, hencrypted⟩ := hrest message hmem
      rw [hnotes] at hnote
      rcases List.mem_append.mp hnote with hold | hnew
      · -- the id of the new message is in no older note
        exact hfresh (hid ▸ hinv.noted note hold)
      · obtain rfl := List.mem_singleton.mp hnew
        have hstate := (hencrypted hne).1
        -- only an answer of the chat bot is left, and that is stored as legacy
        cases hcreates with
        | send args ctx attachment encrypted sentAt hcall => cases hcall
        | chatbot s u args c r hc hr => cases hstate

/-- **Every text is stored encrypted exactly when no reply of the chat bot is stored**: along every
    run of the gateway with encryption enabled. -/
theorem encryptedAtRest_iff {env : BackendEnv} (henabled : env.chatReverseEncryptionEnabled = true)
    {config : AiConfig} {attachments : List ChatAttachment} {events : List GatewayEvent}
    {state : ChatGateway × List CreatedText}
    (hrun : run (notingTexts env config) (startGateway attachments, []) events = some state) :
    Along (notingTexts env config) (EncryptedAtRest env) (startGateway attachments, []) events ↔
      Guarded (notingTexts env config) (fun state event => StoresNoReply state.1 event)
        (startGateway attachments, []) events := by
  have hstart : AtRestInv env (startGateway attachments, []) :=
    ⟨fun _ hmem => absurd hmem List.not_mem_nil, fun _ hmem => absurd hmem List.not_mem_nil,
      fun _ hmem => absurd hmem List.not_mem_nil⟩
  exact along_iff_guarded (fun _ hinv => hinv.atRest)
    (fun _ _ _ hinv hok hstep => hinv.step henabled hok hstep)
    (fun _ _ _ hinv hno hstep => hinv.broken hno hstep) hstart hrun

/-! ## A reply -/

/-- With the chat bot and without moderation. -/
def chatbotAi : AiConfig := ⟨false, true⟩

/-- Steps of one task with a processor that answers and an AI service that says hello. -/
def answeredSteps (index count : Nat) (newId : ObjectId) : List GatewayEvent :=
  List.replicate count (.step index
    ⟨{ plainInput 5 newId [] with exchange := quietIo }, ⟨none, none⟩, some (js "hello")⟩)

/-- User 1 makes a group, connects and sends a message to it. -/
def askEvents : List GatewayEvent :=
  .request createGroup.call :: taskSteps 0 createGroup.inputs ++
    [.connect (digitId 1), .receive 0 (.sendMessage (digitId 3).toString (js "/ai") [])] ++
    answeredSteps 1 12 (digitId 8)

/-- The message alone. -/
theorem encryptedAtRest_iff_asked :
    ∃ state, encryptingEnv.chatReverseEncryptionEnabled = true ∧
      run (notingTexts encryptingEnv chatbotAi) (startGateway [], []) askEvents = some state ∧
      (Along (notingTexts encryptingEnv chatbotAi) (EncryptedAtRest encryptingEnv)
          (startGateway [], []) askEvents ↔
        Guarded (notingTexts encryptingEnv chatbotAi)
          (fun state event => StoresNoReply state.1 event) (startGateway [], []) askEvents) := by
  have hsome : (run (notingTexts encryptingEnv chatbotAi) (startGateway [], []) askEvents).isSome =
      true := by decide +kernel
  obtain ⟨state, hrun⟩ := Option.isSome_iff_exists.mp hsome
  exact ⟨state, rfl, hrun, encryptedAtRest_iff rfl hrun⟩

/-- The chat bot answers, and the answer is stored as it is. -/
theorem reply_stored_as_text :
    ∃ state, run (notingTexts encryptingEnv chatbotAi) (startGateway [], [])
        (askEvents ++ answeredSteps 2 2 (digitId 9)) = some state ∧
      (state.1.db.messages.map fun m => (m.id, m.reverseEncryptionState)) =
        [(digitId 8, .encrypted), (digitId 9, .legacy)] ∧
      state.2 = [⟨digitId 8, js "/ai"⟩, ⟨digitId 9, js "hello"⟩] ∧
      ¬ EncryptedAtRest encryptingEnv state := by
  have hview : (run (notingTexts encryptingEnv chatbotAi) (startGateway [], [])
      (askEvents ++ answeredSteps 2 2 (digitId 9))).map (fun state =>
        (state.1.db.messages.map fun m => (m.id, m.reverseEncryptionState), state.2)) =
      some ([(digitId 8, .encrypted), (digitId 9, .legacy)],
        [⟨digitId 8, js "/ai"⟩, ⟨digitId 9, js "hello"⟩]) := by decide +kernel
  obtain ⟨state, hrun, heq⟩ := Option.map_eq_some_iff.mp hview
  obtain ⟨hmessages, hnotes⟩ := Prod.mk.inj heq
  refine ⟨state, hrun, hmessages, hnotes, fun hrest => ?_⟩
  have hreply : (digitId 9, ReverseEncryptionState.legacy) ∈
      state.1.db.messages.map fun m => (m.id, m.reverseEncryptionState) := by
    rw [hmessages]
    exact List.mem_cons_of_mem _ List.mem_cons_self
  obtain ⟨message, hmessage, hreply⟩ := List.mem_map.mp hreply
  obtain ⟨hid, hstate⟩ := Prod.mk.inj hreply
  obtain ⟨note, hnote, hsame, hencrypted⟩ := hrest message hmessage
  -- neither of the two notes is empty
  have htext : note.text ≠ [] := by
    rw [hnotes] at hnote
    rcases List.mem_cons.mp hnote with rfl | hnote
    · decide
    · obtain rfl := List.mem_singleton.mp hnote
      decide
  have hboth := (hencrypted htext).1
  rw [hstate] at hboth
  cases hboth

end ChatSC.Spec
