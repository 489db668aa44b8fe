import ChatSC.Native.Processor
import ChatSC.Spec.Sha1Digest

/-!
# What `chat_write` reads

The daemon looks at the first bytes of a request only, so its fields need not be terminated.
`strlen` and `"%s"` read on until a NUL comes; the loops of the substitution stop after 511 bytes.
`readResponse` is `chat_write` with reads that fail behind the end of the request: it agrees with
the driver when it gives a response (`driverResponse_of_read`).

`confined_iff` says for which requests the driver stays inside the request and processes one field
only.
-/

namespace ChatSC.Spec

open Native

/-! ## Reading inside a piece of memory -/

/-- `strlen` and the `"%s"` of `snprintf`: the string at the start of the memory; `none` when they
    read behind its end. -/
def readStr : List UInt8 → Option (List UInt8)
  | [] => none
  | b :: mem => if b = 0 then some [] else (readStr mem).map (b :: ·)

/-- The loop of the two transforms; `none` when it reads behind the end of the input. -/
def readTransform (f : UInt8 → UInt8) : (size : Nat) → (input output : List UInt8) →
    Option (List UInt8)
  | size + 1, b :: input, output =>
    if b ≠ 0 ∧ 0 < size then (readTransform f size input output.tail).map (f b :: ·)
    else some (0 :: output.tail)
  | _ + 1, [], _ => none
  | 0, _, output => some output

/-- The payload of `chat_write`. -/
def readPayload (request : RequestPtr) : Option (List UInt8) :=
  let output := (CharArray.zero chatMaxResult).bytes
  if request.mode = ProcessingMode.sha1.code then
    let input :=
      if request.authPayload.first ≠ 0 then request.authPayloadMem else request.payloadMem
    (readStr input).map fun s => kernelSha1Transform s output chatMaxResult
  else if request.mode = ProcessingMode.substitution.code then
    readTransform mapForward chatMaxResult request.payloadMem output
  else if request.mode = ProcessingMode.substitutionDecrypt.code then
    readTransform mapReverse chatMaxResult request.payloadMem output
  else some (CharArray.ofStr chatMaxResult (ascii "unsupported-mode")).bytes

/-- The two names and the payload of `chat_write`, on a request with no memory behind it. -/
def readResponse (request : ChatRequest) :
    Option (CharArray chatMaxUsername × CharArray chatMaxUsername × List UInt8) :=
  (readStr (RequestPtr.usernameMem ⟨request, []⟩)).bind fun username =>
    (readStr (RequestPtr.peerUsernameMem ⟨request, []⟩)).bind fun peerUsername =>
      (readPayload ⟨request, []⟩).map fun payload =>
        (.ofStr _ username, .ofStr _ peerUsername, payload)

/-- A string is read when a NUL ends it. -/
theorem readStr_eq (mem : List UInt8) :
    readStr mem = if 0 ∈ mem then some (cstr mem) else none := by
  -- induction on the memory, as the loop walks through it
  induction mem with
  | nil => rfl
  | cons b mem ih =>
    by_cases hb : b = 0
    · subst hb
      simp [readStr]
    · have hmem : 0 ∈ b :: mem ↔ 0 ∈ mem := by simp [Ne.symm hb]
      rw [readStr, if_neg hb, ih, CString.cstr_cons_of_ne hb]
      by_cases h0 : 0 ∈ mem
      · rw [if_pos h0, if_pos (hmem.mpr h0)]
        rfl
      · rw [if_neg h0, if_neg fun h => h0 (hmem.mp h)]
        rfl

/-- The loop never reads behind an input of the size of its buffer. -/
theorem readTransform_eq (f : UInt8 → UInt8) {size : Nat} {input : List UInt8}
    (h : size ≤ input.length) (output : List UInt8) :
    readTransform f size input output = some (transformLoop f size input output) := by
  induction size generalizing input output with
  | zero => simp only [readTransform, transformLoop]
  | succ size ih =>
    cases input with
    | nil => exact absurd h (by simp)
    | cons b input =>
      have hrest : size ≤ input.length := by simpa using h
      simp only [readTransform, transformLoop, ih hrest]
      split <;> rfl

/-- What the loop leaves depends on as much of the input as the buffer has room for. -/
theorem transformLoop_append (f : UInt8 → UInt8) {size : Nat} (hsize : 0 < size)
    {input : List UInt8} (h : size ≤ input.length + 1) (behind output : List UInt8) :
    transformLoop f size (input ++ behind) output = transformLoop f size input output := by
  have hcut : (cstr (input ++ behind)).take (size - 1) = (cstr input).take (size - 1) := by
    rw [← CString.cstr_take, ← CString.cstr_take, List.take_append_of_le_length (by omega)]
  rw [transformLoop_eq f hsize, transformLoop_eq f hsize, hcut]

/-! ## The field of the SHA-1 mode -/

/-- The field that the SHA-1 mode processes. -/
def sha1Field (request : ChatRequest) : List UInt8 :=
  if request.authPayload.first ≠ 0 then request.authPayload.bytes else request.payload.bytes

/-- What lies behind that field in the request. -/
def behindSha1Field (request : ChatRequest) : List UInt8 :=
  if request.authPayload.first ≠ 0 then request.payload.bytes ++ request.plaintextPayload.bytes
  else request.plaintextPayload.bytes

/-- The memory that `strlen` runs through in the SHA-1 mode. -/
theorem sha1Mem_eq (request : ChatRequest) (after : List UInt8) :
    (if request.authPayload.first ≠ 0 then RequestPtr.authPayloadMem ⟨request, after⟩
      else RequestPtr.payloadMem ⟨request, after⟩) =
      sha1Field request ++ (behindSha1Field request ++ after) := by
  unfold sha1Field behindSha1Field
  split
  · rw [List.append_assoc]
    rfl
  · rfl

/-- The string that is hashed runs on behind the field when no NUL ends it. -/
theorem sha1Input_eq (request : ChatRequest) (after : List UInt8) :
    sha1Input ⟨request, after⟩ = cstr (sha1Field request ++ (behindSha1Field request ++ after)) := by
  rw [← sha1Mem_eq, sha1Input]
  split <;> rfl

/-! ## The payload, mode by mode -/

/-- The payload that the field of the mode gives: the SHA-1 of its bytes up to a NUL or its end, or
    the transformed string. -/
def fieldPayload (request : ChatRequest) : List UInt8 :=
  let output := (CharArray.zero chatMaxResult).bytes
  if request.mode = ProcessingMode.sha1.code then
    hexDigits (sha1Digest (cstr (sha1Field request))) ++ List.replicate 472 0
  else if request.mode = ProcessingMode.substitution.code then
    substitutionTransform request.payload.bytes output chatMaxResult
  else substitutionReverseTransform request.payload.bytes output chatMaxResult

/-- A transform of the payload and of all the memory that follows it. -/
theorem transformLoop_payloadMem (f : UInt8 → UInt8) (request : ChatRequest) (after output) :
    transformLoop f chatMaxResult (RequestPtr.payloadMem ⟨request, after⟩) output =
      transformLoop f chatMaxResult request.payload.bytes output := by
  have hlen : request.payload.bytes.length = 512 := request.payload.size_eq
  exact transformLoop_append f (by decide) (by rw [hlen]; decide) _ output

/-- Neither does it read behind the request. -/
theorem readTransform_payloadMem (f : UInt8 → UInt8) (request : ChatRequest) (output) :
    readTransform f chatMaxResult (RequestPtr.payloadMem ⟨request, []⟩) output =
      some (transformLoop f chatMaxResult request.payload.bytes output) := by
  have hlen : request.payload.bytes.length = 512 := request.payload.size_eq
  have hroom : chatMaxResult ≤ (RequestPtr.payloadMem ⟨request, []⟩).length := by
    rw [RequestPtr.payloadMem, List.length_append, hlen]
    exact Nat.le_add_right 512 _
  rw [readTransform_eq f hroom, transformLoop_payloadMem]

/-- In the two substitution modes the driver reads the payload only, and inside the request. -/
theorem payload_of_substitutions {request : ChatRequest}
    (hsha1 : request.mode ≠ ProcessingMode.sha1.code)
    (hmode : request.mode = ProcessingMode.substitution.code ∨
      request.mode = ProcessingMode.substitutionDecrypt.code) :
    readPayload ⟨request, []⟩ = some (fieldPayload request) ∧
      ∀ after, (processPayload ⟨request, after⟩).1.bytes = fieldPayload request := by
  -- the two modes read the same bytes and map them differently
  by_cases hsubst : request.mode = ProcessingMode.substitution.code
  · simp only [readPayload, processPayload, fieldPayload, if_neg hsha1, if_pos hsubst,
      substitutionTransform, readTransform_payloadMem, transformLoop_payloadMem, implies_true,
      and_self]
  · have hdecrypt : request.mode = ProcessingMode.substitutionDecrypt.code :=
      hmode.resolve_left hsubst
    simp only [readPayload, processPayload, fieldPayload, if_neg hsha1, if_neg hsubst,
      if_pos hdecrypt, substitutionReverseTransform, readTransform_payloadMem,
      transformLoop_payloadMem, implies_true, and_self]

/-- In the SHA-1 mode it reads inside the request when a NUL comes in the field or behind it. -/
theorem readPayload_sha1 {request : ChatRequest}
    (hsha1 : request.mode = ProcessingMode.sha1.code) :
    readPayload ⟨request, []⟩ =
      if 0 ∈ sha1Field request ++ behindSha1Field request then
        some (hexDigits (sha1Digest (sha1Input ⟨request, []⟩)) ++ List.replicate 472 0)
      else none := by
  have hmem := sha1Mem_eq request []
  have hinput := sha1Input_eq request []
  rw [List.append_nil] at hmem hinput
  simp only [readPayload, if_pos hsha1, hmem, readStr_eq]
  split
  · rw [Option.map_some, kernelSha1Transform_eq, CString.cstr_cstr, ← hinput]
  · rfl

/-- What is hashed does not depend on the memory behind a request with a NUL in it. -/
theorem sha1Input_of_mem {request : ChatRequest}
    (h : 0 ∈ sha1Field request ++ behindSha1Field request) (after : List UInt8) :
    sha1Input ⟨request, after⟩ = cstr (sha1Field request ++ behindSha1Field request) := by
  rw [sha1Input_eq, ← List.append_assoc, CString.cstr_append_of_mem h]

/-! ## Agreement with the driver -/

/-- The payload that is read is that of the driver, whatever lies behind the request. -/
theorem processPayload_of_read {request : ChatRequest} {payload : List UInt8}
    (h : readPayload ⟨request, []⟩ = some payload) (after : List UInt8) :
    (processPayload ⟨request, after⟩).1.bytes = payload := by
  -- SHA-1 reads a string, which ends inside the request
  by_cases hsha1 : request.mode = ProcessingMode.sha1.code
  · rw [readPayload_sha1 hsha1] at h
    split at h
    · rename_i h0
      rw [payload_sha1 hsha1, sha1Input_of_mem h0, ← sha1Input_of_mem h0 []]
      exact Option.some.inj h
    · cases h
  -- the substitutions read the field alone
  by_cases hmode : request.mode = ProcessingMode.substitution.code ∨
      request.mode = ProcessingMode.substitutionDecrypt.code
  · obtain ⟨hread, hprocess⟩ := payload_of_substitutions hsha1 hmode
    rw [hprocess after]
    exact Option.some.inj (hread.symm.trans h)
  · -- any other mode copies the payload
    rw [not_or] at hmode
    simp only [readPayload, if_neg hsha1, if_neg hmode.1, if_neg hmode.2] at h
    simp only [processPayload, if_neg hsha1, if_neg hmode.1, if_neg hmode.2]
    exact Option.some.inj h

/-- A string that is read is the string of the driver. -/
theorem ofStr_of_read {n : Nat} {mem s : List UInt8} (h : readStr mem = some s)
    (after : List UInt8) : CharArray.ofStr n (mem ++ after) = .ofStr n s := by
  rw [readStr_eq] at h
  split at h
  · rename_i h0
    rw [← CharArray.ofStr_cstr, CString.cstr_append_of_mem h0, Option.some.inj h]
  · cases h

/-- A response that is read inside the request is the response of the driver. -/
theorem driverResponse_of_read {request : ChatRequest}
    {username peerUsername : CharArray chatMaxUsername} {payload : List UInt8}
    (h : readResponse request = some (username, peerUsername, payload)) (after : List UInt8) :
    (driverResponse ⟨request, after⟩).fromUsername = username ∧
      (driverResponse ⟨request, after⟩).peerUsername = peerUsername ∧
      (driverResponse ⟨request, after⟩).payload.bytes = payload := by
  obtain ⟨user, huser, h⟩ := Option.bind_eq_some_iff.mp h
  obtain ⟨peer, hpeer, h⟩ := Option.bind_eq_some_iff.mp h
  obtain ⟨bytes, hbytes, h⟩ := Option.map_eq_some_iff.mp h
  -- what has been read is copied into the fields of the response
  obtain ⟨rfl, rfl, rfl⟩ : CharArray.ofStr _ user = username ∧
      CharArray.ofStr _ peer = peerUsername ∧ bytes = payload := by simpa using h
  -- the memory behind the request is behind that of every field
  have husername : RequestPtr.usernameMem ⟨request, after⟩ =
      RequestPtr.usernameMem ⟨request, []⟩ ++ after := by
    simp [RequestPtr.usernameMem, RequestPtr.peerUsernameMem, RequestPtr.authPayloadMem,
      RequestPtr.payloadMem]
  have hpeerUsername : RequestPtr.peerUsernameMem ⟨request, after⟩ =
      RequestPtr.peerUsernameMem ⟨request, []⟩ ++ after := by
    simp [RequestPtr.peerUsernameMem, RequestPtr.authPayloadMem, RequestPtr.payloadMem]
  refine ⟨?_, ?_, processPayload_of_read hbytes after⟩
  · rw [driverResponse, husername, ofStr_of_read huser]
  · rw [driverResponse, hpeerUsername, ofStr_of_read hpeer]

/-! ## One field only -/

/-- The driver confines itself to the field that it processes: it reads nothing behind the request,
    and the payload is what that field gives, whatever lies behind the request. -/
structure Confined (request : ChatRequest) : Prop where
  inside : (readResponse request).isSome
  payload : ∀ after, (driverResponse ⟨request, after⟩).payload.bytes = fieldPayload request

/-- The strings that the driver reads end where they should: some field from `peer_username` on has
    a NUL; in the SHA-1 mode the field that is hashed has one, or a NUL comes right behind it, or
    one comes later but the longer string has the digest of the field. -/
structure FieldsTerminated (request : ChatRequest) : Prop where
  names : 0 ∈ request.peerUsername.bytes ++ (request.authPayload.bytes ++
    (request.payload.bytes ++ request.plaintextPayload.bytes))
  hashed : request.mode = ProcessingMode.sha1.code →
    0 ∈ sha1Field request ∨ (behindSha1Field request).head? = some 0 ∨
      0 ∈ behindSha1Field request ∧
        sha1Digest (sha1Field request ++ cstr (behindSha1Field request)) =
          sha1Digest (sha1Field request)

/-- A response is read when the peer name ends inside the request, and so does the payload. -/
theorem isSome_readResponse_iff (request : ChatRequest) :
    (readResponse request).isSome ↔
      0 ∈ request.peerUsername.bytes ++ (request.authPayload.bytes ++
        (request.payload.bytes ++ request.plaintextPayload.bytes)) ∧
      (readPayload ⟨request, []⟩).isSome := by
  have hpeer : RequestPtr.peerUsernameMem ⟨request, []⟩ =
      request.peerUsername.bytes ++ (request.authPayload.bytes ++
        (request.payload.bytes ++ request.plaintextPayload.bytes)) := by
    simp [RequestPtr.peerUsernameMem, RequestPtr.authPayloadMem, RequestPtr.payloadMem]
  rw [← hpeer]
  by_cases h0 : 0 ∈ RequestPtr.peerUsernameMem ⟨request, []⟩
  · -- the username ends no later than the peer name
    have huser : 0 ∈ RequestPtr.usernameMem ⟨request, []⟩ := List.mem_append_right _ h0
    simp [readResponse, readStr_eq, h0, huser]
  · -- the peer name runs behind the end, even when the username does not
    by_cases huser : 0 ∈ RequestPtr.usernameMem ⟨request, []⟩
    · simp [readResponse, readStr_eq, h0, huser]
    · simp [readResponse, readStr_eq, h0, huser]

/-- Two payloads of the SHA-1 mode are equal when their digests are. -/
theorem hexDigits_append_inj {a b : List UInt8} (pad : List UInt8) :
    hexDigits a ++ pad = hexDigits b ++ pad ↔ a = b :=
  ⟨fun h => hexDigits_injective (List.append_cancel_right h), fun h => by rw [h]⟩

/-- The SHA-1 mode hashes the field when its string ends in time. -/
theorem payload_sha1_iff {request : ChatRequest}
    (hsha1 : request.mode = ProcessingMode.sha1.code)
    (h0 : 0 ∈ sha1Field request ++ behindSha1Field request) (after : List UInt8) :
    (driverResponse ⟨request, after⟩).payload.bytes = fieldPayload request ↔
      0 ∈ sha1Field request ∨
        sha1Digest (sha1Field request ++ cstr (behindSha1Field request)) =
          sha1Digest (sha1Field request) := by
  have hpayload : (driverResponse ⟨request, after⟩).payload.bytes =
      hexDigits (sha1Digest (cstr (sha1Field request ++ behindSha1Field request))) ++
        List.replicate 472 0 := by
    rw [driverResponse, payload_sha1 hsha1, sha1Input_of_mem h0]
  rw [hpayload, fieldPayload, if_pos hsha1, hexDigits_append_inj]
  -- the string ends in the field, or it runs on into what lies behind
  by_cases hfield : 0 ∈ sha1Field request
  · simp [CString.cstr_append_of_mem hfield, hfield]
  · simp [CString.cstr_append_of_notMem hfield, CString.cstr_eq_self hfield, hfield]

/-- Staying confined is ending in time. -/
theorem confined_iff {request : ChatRequest} (hvalid : processorValidateRequest request = none) :
    Confined request ↔ FieldsTerminated request := by
  have hsupported : isSupportedMode request.mode = true := by
    cases hmode : isSupportedMode request.mode with
    | true => rfl
    | false => simp [processorValidateRequest, hmode] at hvalid
  -- the substitutions stop at the field's size, hashing reads on to the NUL
  by_cases hsha1 : request.mode = ProcessingMode.sha1.code
  · have hread : (readPayload ⟨request, []⟩).isSome ↔
        0 ∈ sha1Field request ++ behindSha1Field request := by
      rw [readPayload_sha1 hsha1]
      split
      · rename_i h0
        exact ⟨fun _ => h0, fun _ => rfl⟩
      · rename_i h0
        exact ⟨fun h => absurd h Bool.false_ne_true, fun h => absurd h h0⟩
    constructor
    · intro hconfined
      obtain ⟨hnames, hinside⟩ := (isSome_readResponse_iff request).mp hconfined.inside
      have h0 := hread.mp hinside
      refine ⟨hnames, fun _ => ?_⟩
      rcases (payload_sha1_iff hsha1 h0 []).mp (hconfined.payload []) with hfield | hdigest
      · exact .inl hfield
      · rcases List.mem_append.mp h0 with hfield | hbehind
        · exact .inl hfield
        · exact .inr (.inr ⟨hbehind, hdigest⟩)
    · intro hterminated
      -- each of the three ways to end gives a NUL behind which nothing is hashed
      have hends : 0 ∈ sha1Field request ∨ 0 ∈ behindSha1Field request ∧
          sha1Digest (sha1Field request ++ cstr (behindSha1Field request)) =
            sha1Digest (sha1Field request) := by
        rcases hterminated.hashed hsha1 with hfield | hnext | hlater
        · exact .inl hfield
        · have hempty : cstr (behindSha1Field request) = [] :=
            CString.cstr_eq_nil_iff.mpr (by rw [hnext]; rfl)
          exact .inr ⟨List.mem_of_mem_head? hnext, by rw [hempty, List.append_nil]⟩
        · exact .inr hlater
      have h0 : 0 ∈ sha1Field request ++ behindSha1Field request :=
        List.mem_append.mpr (hends.imp_right And.left)
      constructor
      case inside => exact (isSome_readResponse_iff request).mpr ⟨hterminated.names, hread.mpr h0⟩
      case payload =>
        intro after
        exact (payload_sha1_iff hsha1 h0 after).mpr (hends.imp_right And.right)
  · have hmode : request.mode = ProcessingMode.substitution.code ∨
        request.mode = ProcessingMode.substitutionDecrypt.code := by
      simpa [isSupportedMode, hsha1] using hsupported
    obtain ⟨hread, hprocess⟩ := payload_of_substitutions hsha1 hmode
    have hinside := isSome_readResponse_iff request
    rw [hread] at hinside
    constructor
    · intro hconfined
      exact ⟨(hinside.mp hconfined.inside).1, fun h => absurd h hsha1⟩
    · intro hterminated
      exact ⟨hinside.mpr ⟨hterminated.names, rfl⟩, hprocess⟩

/-- Two requests in one mode have the same bytes in the field that the mode processes. -/
structure SameField (request other : ChatRequest) : Prop where
  mode : other.mode = request.mode
  sha1 : request.mode = ProcessingMode.sha1.code → sha1Field other = sha1Field request
  payload : request.mode ≠ ProcessingMode.sha1.code → other.payload = request.payload

/-- Nothing but the field counts for the payload that it gives. -/
theorem SameField.fieldPayload_eq {request other : ChatRequest} (h : SameField request other) :
    fieldPayload other = fieldPayload request := by
  unfold fieldPayload
  rw [h.mode]
  by_cases hsha1 : request.mode = ProcessingMode.sha1.code
  · rw [if_pos hsha1, if_pos hsha1, h.sha1 hsha1]
  · rw [if_neg hsha1, if_neg hsha1, h.payload hsha1]

/-- For every request that the daemon passes on, the driver confines itself to the field that it
    processes exactly when the strings that it reads end where they should.  Of two such requests,
    all but that field may differ and the payloads are the same. -/
theorem driver_confined {request : ChatRequest} (hvalid : processorValidateRequest request = none) :
    (Confined request ↔ FieldsTerminated request) ∧
      ∀ other, processorValidateRequest other = none → FieldsTerminated request →
        FieldsTerminated other → SameField request other → ∀ after after',
          (driverResponse ⟨other, after'⟩).payload = (driverResponse ⟨request, after⟩).payload := by
  refine ⟨confined_iff hvalid, ?_⟩
  intro other hvalidOther hends hendsOther hsame after after'
  have hconfined := (confined_iff hvalid).mpr hends
  have hconfinedOther := (confined_iff hvalidOther).mpr hendsOther
  apply CharArray.ext
  rw [hconfined.payload, hconfinedOther.payload, hsame.fieldPayload_eq]

/-- A field of letters, with no NUL. -/
def letters (n : Nat) : CharArray n := ⟨List.replicate n 97, List.length_replicate⟩

/-- A message in the substitution mode that fills its payload. -/
def fullMessage : ChatRequest :=
  { ChatRequest.zero with
    requestType := RequestType.chatMessage.code
    mode := ProcessingMode.substitution.code
    peerUsername := .ofStr _ (ascii "bob")
    payload := letters _ }

/-- The driver confines itself to a payload that is not terminated, whatever the text behind it. -/
theorem fullMessage_confined :
    processorValidateRequest fullMessage = none ∧ FieldsTerminated fullMessage ∧
      (Confined fullMessage ↔ FieldsTerminated fullMessage) ∧
      ∀ after after',
        (driverResponse ⟨{ fullMessage with plaintextPayload := letters _ }, after'⟩).payload =
          (driverResponse ⟨fullMessage, after⟩).payload :=
  have hvalid : processorValidateRequest fullMessage = none := by decide +kernel
  have hnames : 0 ∈ fullMessage.peerUsername.bytes := by decide +kernel
  -- the payload may run over its end: only the names have to stop
  have hends : FieldsTerminated fullMessage :=
    ⟨List.mem_append_left _ hnames, fun hsha1 => absurd hsha1 (by decide)⟩
  have hendsOther : FieldsTerminated { fullMessage with plaintextPayload := letters _ } :=
    ⟨List.mem_append_left _ hnames, fun hsha1 => absurd hsha1 (by decide)⟩
  have hsame : SameField fullMessage { fullMessage with plaintextPayload := letters _ } :=
    ⟨rfl, fun hsha1 => absurd hsha1 (by decide), fun _ => rfl⟩
  ⟨hvalid, hends, (driver_confined hvalid).1,
    (driver_confined hvalid).2 _ (by decide +kernel) hends hendsOther hsame⟩

/-- A login with a password that fills its field, and a letter behind it. -/
def fullLogin : ChatRequest :=
  { ChatRequest.zero with
    requestType := RequestType.authLogin.code
    mode := ProcessingMode.sha1.code
    username := .ofStr _ (ascii "amy")
    authPayload := letters _
    payload := .ofStr _ (ascii "b") }

/-- A login in which no field is terminated. -/
def endlessLogin : ChatRequest where
  messageId := 1
  requestType := RequestType.authLogin.code
  mode := ProcessingMode.sha1.code
  username := letters _
  peerUsername := letters _
  authPayload := letters _
  payload := letters _
  plaintextPayload := letters _

/-- The letter behind the password counts. -/
theorem sha1Digest_fullLogin :
    sha1Digest (List.replicate 64 97 ++ [98]) ≠ sha1Digest (List.replicate 64 97) := by
  decide +kernel

/-- Both requests pass the daemon.  For the one the driver hashes the 64 letters of the password and
    the one behind it, for the other it reads behind the end of the request. -/
theorem logins_not_confined :
    processorValidateRequest fullLogin = none ∧ ¬ Confined fullLogin ∧
      processorValidateRequest endlessLogin = none ∧ readResponse endlessLogin = none := by
  have hvalid : processorValidateRequest fullLogin = none := by decide +kernel
  -- the field is full, and what lies behind it starts with a letter
  have hfield : sha1Field fullLogin = List.replicate 64 97 := by decide +kernel
  have hbehind : cstr (behindSha1Field fullLogin) = [98] := by decide +kernel
  have hread : readResponse endlessLogin = none := by
    have hname : 0 ∉ RequestPtr.usernameMem ⟨endlessLogin, []⟩ := by decide +kernel
    rw [readResponse, readStr_eq, if_neg hname]
    rfl
  refine ⟨hvalid, fun hconfined => ?_, by decide +kernel, hread⟩
  -- none of the three ways to be confined is met
  rcases ((confined_iff hvalid).mp hconfined).hashed rfl with h0 | hnext | ⟨_, hdigest⟩
  · rw [hfield] at h0
    exact absurd h0 (by decide +kernel)
  · have hempty : cstr (behindSha1Field fullLogin) = [] :=
      CString.cstr_eq_nil_iff.mpr (by rw [hnext]; rfl)
    exact nomatch hbehind.symm.trans hempty
  · rw [hfield, hbehind] at hdigest
    exact sha1Digest_fullLogin hdigest

end ChatSC.Spec
