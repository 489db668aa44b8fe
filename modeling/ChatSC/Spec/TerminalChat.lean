import ChatSC.Spec.Processing
import ChatSC.Spec.ServerLogins

/-!
# A message from terminal to terminal

A typed line goes through the prompt buffer, the sender's backend (substitution), the request, the
server, the delivery and the receiver's backend (reverse substitution), with a bounded copy at every
boundary.  Each step is a lemma about the string it hands on; `typed_line_displayed` composes them.
-/

namespace ChatSC.Spec

open Native Stdio

/-! ## The prompt -/

/-- A line that fits the prompt buffer is read whole, also when its newline does not fit any more. -/
theorem promptLine_typed {line : List UInt8} {size : Nat} (hlen : line.length < size)
    (h0 : 0 ∉ line) (hnewline : newline ∉ line) (rest : List UInt8) :
    (promptLine size (line ++ newline :: rest)).1 = line := by
  have hne : line ++ newline :: rest ≠ [] := by simp
  have htake : line.takeWhile (· ≠ newline) = line := by
    rw [List.takeWhile_eq_self_iff]
    intro b hb
    simp only [ne_eq, decide_not, Bool.not_eq_true', decide_eq_false_iff_not]
    rintro rfl
    exact hnewline hb
  simp only [promptLine, fgets, if_neg hne]
  -- a line that fills the buffer is read without its newline
  by_cases hfull : line.length = size - 1
  · rw [← hfull, readLine_of_full hnewline, CString.cstr_eq_self h0, htake]
  · rw [readLine_of_fits hnewline (by omega)]
    have h0' : 0 ∉ line ++ [newline] := by
      simp only [List.mem_append, List.mem_singleton, not_or]
      exact ⟨h0, by decide⟩
    rw [CString.cstr_eq_self h0', List.takeWhile_append_of_pos (by
      intro b hb
      simp only [ne_eq, decide_not, Bool.not_eq_true', decide_eq_false_iff_not]
      rintro rfl
      exact hnewline hb)]
    simp

/-! ## One processing step -/

/-- What `format_device_request` puts into the payload of a chat message. -/
theorem payload_of_format {messageId : UInt32} {mode : ProcessingMode}
    {username peerUsername authPayload plaintextPayload : Option (List UInt8)}
    {payload : List UInt8} {request : ChatRequest}
    (h : formatDeviceRequest messageId .chatMessage mode username peerUsername authPayload
      (some payload) plaintextPayload = some request) (after : List UInt8) :
    RequestPtr.payloadStr ⟨request, after⟩ = (cstr payload).take 511 := by
  obtain ⟨rfl, -⟩ := formatDeviceRequest_eq_some h
  rw [RequestPtr.payloadStr_of_mem (CharArray.zero_mem_ofStr (by decide) _)]
  exact CharArray.cstr_ofStr (by decide) payload

/-- A chat message that `process_message` accepts comes back as the string that the driver makes of
    its payload. -/
theorem processMessage_eq_some {b : Backend} (hb : b.Succeeds) {after : List UInt8}
    {messageId : UInt32} {mode : ProcessingMode} {f : UInt8 → UInt8}
    (hmode : ∀ request : RequestPtr, request.mode = mode.code →
      0 ∈ (processPayload request).1.bytes ∧
        cstr (processPayload request).1.bytes = (request.payloadStr.take 511).map f)
    {username peerUsername : Option (List UInt8)} {payload : List UInt8} (h0 : 0 ∉ payload)
    (hlen : payload.length ≤ 511) {result : CString chatMaxMessage}
    (h : processMessage b after messageId .chatMessage mode username peerUsername none
      (some payload) none chatMaxMessage = some result) : result.val = payload.map f := by
  unfold processMessage at h
  split at h
  · cases h
  · rename_i request hformat
    have hpayload : RequestPtr.payloadStr ⟨request, b.deviceIo.after⟩ = payload := by
      rw [payload_of_format hformat, CString.cstr_eq_self h0, List.take_of_length_le hlen]
    have hrequest : request.mode = mode.code := by
      obtain ⟨rfl, -⟩ := formatDeviceRequest_eq_some hformat
      rfl
    obtain ⟨hzero, hcstr⟩ := hmode ⟨request, b.deviceIo.after⟩ hrequest
    rw [processingClientProcess_eq hb (validate_of_format hformat)] at h
    simp only [ne_eq, not_true_eq_false, ↓reduceIte] at h
    split at h
    · cases h
    · cases h
      -- the driver's payload ends inside its field, and the string fits the result
      show (cstr ((processPayload ⟨request, b.deviceIo.after⟩).1.bytes ++ after)).take 511 = _
      rw [CString.cstr_append_of_mem hzero, hcstr, hpayload, List.take_of_length_le hlen]
      exact List.take_of_length_le (by simpa using hlen)

/-- `format_device_request` accepts a chat message with a peer and a payload. -/
theorem formatDeviceRequest_isSome (messageId : UInt32) (mode : ProcessingMode)
    (username plaintextPayload : Option (List UInt8)) {peerUsername payload : List UInt8}
    (hpeer : cstr peerUsername ≠ []) (hpayload : cstr payload ≠ []) :
    (formatDeviceRequest messageId .chatMessage mode username (some peerUsername) none
      (some payload) plaintextPayload).isSome = true := by
  have hfirst : ∀ (n : Nat) (s : List UInt8), 1 < n → cstr s ≠ [] →
      (CharArray.ofStr n s).first ≠ 0 := by
    intro n s hn hs h0
    apply hs
    have hnil : cstr (CharArray.ofStr n s).bytes = [] := by
      rw [CString.cstr_eq_nil_iff, ← List.headD_eq_head?_getD]
      exact h0
    rw [CharArray.cstr_ofStr (by omega), List.take_eq_nil_iff] at hnil
    rcases hnil with hn' | hnil
    · omega
    · exact hnil
  have hp := hfirst chatMaxUsername peerUsername (by decide) hpeer
  have hm := hfirst chatMaxMessage payload (by decide) hpayload
  simp [formatDeviceRequest, copyField, hp, hm]

/-- `process_message` accepts a chat message with a peer and a payload. -/
theorem processMessage_isSome {b : Backend} (hb : b.Succeeds) (after : List UInt8)
    (messageId : UInt32) (mode : ProcessingMode) (username : Option (List UInt8))
    {peerUsername payload : List UInt8} (hpeer : cstr peerUsername ≠ [])
    (hpayload : cstr payload ≠ []) :
    (processMessage b after messageId .chatMessage mode username (some peerUsername) none
      (some payload) none chatMaxMessage).isSome = true := by
  obtain ⟨request, hformat⟩ := Option.isSome_iff_exists.mp
    (formatDeviceRequest_isSome messageId mode username none hpeer hpayload)
  have hmode : request.mode = mode.code := by
    obtain ⟨rfl, -⟩ := formatDeviceRequest_eq_some hformat
    rfl
  have hstatus : (driverResponse ⟨request, b.deviceIo.after⟩).status = ResponseStatus.ok.code :=
    status_of_mode hmode
  simp [processMessage, hformat, processingClientProcess_eq hb (validate_of_format hformat), hstatus]

/-! ## The sender -/

/-- The request that is sent for a typed line carries the encrypted line. -/
theorem payload_of_sent {b : Backend} (hb : b.Succeeds) {after : List UInt8}
    {messageId : UInt32} {username peerUsername line : List UInt8} (h0 : 0 ∉ line)
    (hlen : line.length ≤ 511) {request : ChatRequest}
    (h : chatLine b after messageId username peerUsername line = .sent request) :
    request.requestType = RequestType.chatMessage.code ∧
      ∀ requestAfter, RequestPtr.payloadStr ⟨request, requestAfter⟩ = line.map mapForward := by
  unfold chatLine at h
  split at h
  · cases h
  · split at h
    · cases h
    · split at h
      · cases h
      · split at h
        · cases h
        · rename_i encrypted hencrypted
          -- the line has been encrypted, and the request carries it
          have hval : encrypted.val = line.map mapForward :=
            processMessage_eq_some hb (fun _ hmode => payload_substitution hmode) h0 hlen hencrypted
          split at h
          · cases h
          · rename_i request' hformat
            cases h
            refine ⟨by rw [(formatDeviceRequest_eq_some hformat).1], fun requestAfter => ?_⟩
            rw [payload_of_format hformat, CString.cstr_val, hval]
            exact List.take_of_length_le (by simpa using hlen)

/-! ## The server -/

/-- A handler that answers `DELIVERED` has written a delivery with the payload of the request. -/
theorem delivery_of_delivered {online : OnlineUsers} {session : ClientSession}
    {request : RequestPtr} {written : Bool} {ack : Write}
    (hack : ack ∈ handleChatRequest online session request written)
    (htype : ack.response.responseType = ResponseType.ack.code)
    (hstatus : ack.response.status = ResponseStatus.delivered.code) :
    session.authenticated = true ∧ ∃ peerFd,
      ⟨peerFd, chatDelivery session request⟩ ∈ handleChatRequest online session request written := by
  unfold handleChatRequest at hack ⊢
  cases hrefused : chatRefused session request with
  | some refusal =>
    simp only [hrefused, List.mem_singleton] at hack
    subst hack
    -- a refusal has another status
    unfold chatRefused at hrefused
    split at hrefused
    · cases hrefused
      exact nomatch ResponseStatus.code_injective (a := .authRequired) hstatus
    · split at hrefused
      · cases hrefused
        exact nomatch ResponseStatus.code_injective (a := .peerRequired) hstatus
      · cases hrefused
  | none =>
    have hauth : session.authenticated = true := by
      unfold chatRefused at hrefused
      split at hrefused
      · cases hrefused
      · rename_i hauth
        simpa using hauth
    simp only [hrefused] at hack ⊢
    -- and so has the ack for a peer who is offline
    cases hfd : getOnlineUserFd online request.peerUsernameStr with
    | none =>
      simp only [hfd, List.mem_singleton] at hack
      subst hack
      exact nomatch ResponseStatus.code_injective (a := .peerOffline) hstatus
    | some peerFd => exact ⟨hauth, peerFd, by simp⟩

/-! ## The receiver -/

/-- The receiver displays the decrypted payload of a delivery. -/
theorem receiveResponse_delivery {b : Backend} (hb : b.Succeeds) (after username : List UInt8)
    {session : ClientSession} (hname : session.username.val ≠ []) {request : RequestPtr}
    {line : List UInt8} (h0 : 0 ∉ line) (hpos : 0 < line.length) (hlen : line.length ≤ 511)
    (hpayload : request.payloadStr = line.map mapForward) (responseAfter : List UInt8) :
    receiveResponse b after username ⟨chatDelivery session request, responseAfter⟩ =
      .message session.username.val line := by
  -- the encryption makes no NUL of another byte
  have hencrypted0 : 0 ∉ line.map mapForward := by
    intro hmem
    obtain ⟨c, hc, hzero⟩ := List.mem_map.mp hmem
    rw [(mapForward_eq_zero c).mp hzero] at hc
    exact h0 hc
  -- the response has the whole payload of the request
  have hresponse : ResponsePtr.payloadStr ⟨chatDelivery session request, responseAfter⟩ =
      line.map mapForward := by
    rw [ResponsePtr.payloadStr_of_mem (CharArray.zero_mem_ofStr (by decide) _)]
    show cstr (CharArray.ofStr chatMaxResult request.payloadStr).bytes = _
    rw [CharArray.cstr_ofStr (by decide), hpayload, CString.cstr_eq_self hencrypted0]
    exact List.take_of_length_le (by simpa using hlen)
  have hfrom : ResponsePtr.fromUsernameStr ⟨chatDelivery session request, responseAfter⟩ =
      session.username.val := by
    rw [ResponsePtr.fromUsernameStr_of_mem (CharArray.zero_mem_ofStr (by decide) _)]
    exact CString.cstr_ofStr_val session.username
  have hne : cstr (line.map mapForward) ≠ [] := by
    rw [CString.cstr_eq_self hencrypted0]
    intro hnil
    rw [List.map_eq_nil_iff] at hnil
    rw [hnil] at hpos
    exact absurd hpos (by decide)
  have hpeer : cstr session.username.val ≠ [] := by rwa [CString.cstr_val]
  -- the client asks its own device to decrypt it
  have hsome := processMessage_isSome hb after request.messageId .substitutionDecrypt
    (some username) hpeer hne
  obtain ⟨plaintext, hplaintext⟩ := Option.isSome_iff_exists.mp hsome
  have hval : plaintext.val = (line.map mapForward).map mapReverse :=
    processMessage_eq_some hb (fun _ hmode => payload_substitutionDecrypt hmode) hencrypted0
      (by simpa using hlen) hplaintext
  rw [map_mapReverse_map_mapForward] at hval
  have hid : (chatDelivery session request).messageId = request.messageId := rfl
  unfold receiveResponse
  apply (if_pos rfl).trans
  rw [hresponse, hfrom]
  simp only [hid, hplaintext, hval]

/-! ## From terminal to terminal -/

/-- **The displayed text is the typed line.**  A line of at most 511 bytes is typed, the client sends
    its request, and the server, in any reachable state, answers `DELIVERED` on the sender's
    connection: then it has written a delivery whose text, as any receiver displays it, is the
    line. -/
theorem typed_line_displayed {userDb : List UInt8} {events : List ServerEvent}
    {server server' : ChatServer} {index : Nat} {session : ClientSession}
    (hrun : Transition.run nextServer (.start userDb) events = some server)
    (hopen : Open server index session)
    {sender receiver : Backend} (hsender : sender.Succeeds) (hreceiver : receiver.Succeeds)
    {line : List UInt8} (hpos : 1 ≤ line.length) (hlen : line.length ≤ 511) (h0 : 0 ∉ line)
    (hnewline : newline ∉ line) {rest senderAfter : List UInt8} {messageId : UInt32}
    {username peerUsername : CString chatMaxUsername} {request : ChatRequest}
    (hsent : chatLine sender senderAfter messageId username.val peerUsername.val
      (promptLine chatMaxMessage (line ++ newline :: rest)).1 = .sent request)
    {access : FileAccess} {requestAfter : List UInt8} {written : Bool} {writes : List Write}
    (hstep : serverStep server (.request index access ⟨request, requestAfter⟩ written) =
      some (server', writes))
    {ack : Write} (hack : ack ∈ writes)
    (htype : ack.response.responseType = ResponseType.ack.code)
    (hdelivered : ack.response.status = ResponseStatus.delivered.code) :
    ∃ delivery ∈ writes, delivery.response.responseType = ResponseType.chatDelivery.code ∧
      ∀ receiverName receiverAfter responseAfter,
        receiveResponse receiver receiverAfter receiverName ⟨delivery.response, responseAfter⟩ =
          .message session.username.val line := by
  rw [promptLine_typed (Nat.lt_succ_of_le hlen) h0 hnewline] at hsent
  obtain ⟨hrequest, hpayload⟩ := payload_of_sent hsender h0 hlen hsent
  -- the server handles the request as a chat message
  have hwrites : writes = handleChatRequest server.online session ⟨request, requestAfter⟩ written := by
    simp only [serverStep, show server.connections[index]? = _ from hopen, Option.some.injEq] at hstep
    unfold handleRequest at hstep
    simp only [hrequest] at hstep
    exact (congrArg Prod.snd hstep).symm
  subst hwrites
  obtain ⟨hauth, peerFd, hmem⟩ := delivery_of_delivered hack htype hdelivered
  refine ⟨_, hmem, rfl, fun receiverName receiverAfter responseAfter => ?_⟩
  exact receiveResponse_delivery hreceiver receiverAfter receiverName
    (named_of_run hrun index session hopen hauth) h0 hpos hlen (hpayload requestAfter) responseAfter

/-! ## A short message -/

/-- A backend with a device of its own. -/
def localBackend : Backend where
  backend := .local
  io := ⟨true, true, none⟩
  deviceIo := ⟨true, [], none, none⟩
  driver := .init

/-- `amy` and `bob` log in. -/
def bothLoginEvents : List ServerEvent :=
  [.accept 4, .request 0 .all (loginAs "amy" "ok") true, .accept 5,
    .request 1 .all (loginAs "bob" "ok") true]

/-- The request for the line `hi` from `amy` to `bob`. -/
def hiRequest : ChatRequest where
  messageId := 7
  requestType := RequestType.chatMessage.code
  mode := ProcessingMode.substitution.code
  username := .ofStr _ (ascii "amy")
  peerUsername := .ofStr _ (ascii "bob")
  authPayload := .zero _
  payload := .ofStr _ ((ascii "hi").map mapForward)
  plaintextPayload := .ofStr _ (ascii "hi")

/-- What the server makes of the request. -/
def hiWrites : Option (Bool × List (UInt32 × Int32)) := do
  let server ← Transition.run nextServer (.start amyBobDb) bothLoginEvents
  let connection ← server.connections[0]?
  let (_, writes) ← serverStep server (.request 0 .all ⟨hiRequest, []⟩ true)
  return (connection.isOpen, writes.map fun w => (w.response.responseType, w.response.status))

theorem typed_line_displayed_hi :
    ∃ (session : ClientSession) (delivery : Write),
      receiveResponse localBackend [] (ascii "bob") ⟨delivery.response, []⟩ =
        .message session.username.val (ascii "hi") := by
  have hwrites : hiWrites = some (true, [(2, 0), (1, 9)]) := by decide +kernel
  simp only [hiWrites, Option.bind_eq_bind, Option.bind_eq_some_iff, Option.pure_def,
    Option.some.injEq, Prod.mk.injEq] at hwrites
  obtain ⟨server, hrun, ⟨session, isOpen⟩, hopen, ⟨server', writes⟩, hstep, rfl, hwritten⟩ := hwrites
  obtain ⟨ack, hack, heq⟩ : ∃ ack ∈ writes,
      (ack.response.responseType, ack.response.status) = (1, 9) := by
    apply List.mem_map.mp
    rw [hwritten]
    decide
  have hbackend : localBackend.Succeeds := ⟨rfl, rfl, rfl, rfl, rfl, rfl⟩
  have hsent : chatLine localBackend [] 7 (CString.ofStr chatMaxUsername (ascii "amy")).val
      (CString.ofStr chatMaxUsername (ascii "bob")).val
      (promptLine chatMaxMessage (ascii "hi" ++ newline :: [])).1 = .sent hiRequest := by
    decide +kernel
  obtain ⟨delivery, -, -, hshown⟩ := typed_line_displayed hrun hopen hbackend hbackend
    (by decide) (by decide) (by decide) (by decide) hsent hstep hack (congrArg Prod.fst heq)
    (congrArg Prod.snd heq)
  exact ⟨session, delivery, hshown (ascii "bob") [] []⟩

end ChatSC.Spec
