import ChatSC.Backend.AuthProcessing
import ChatSC.Spec.Wire

/-!
# What the two builders and `parseResponse` agree on with the C structs

Each builder of the backend fills the fields of a `chat_request_t` and nothing else: a field holds
a prefix of its text with a NUL behind it, and the fields that a builder leaves out stay zero.
-/

namespace ChatSC.Spec

open Backend Buffer JsString Native

/-! ## Writing one string -/

/-- A string that is written into a field leaves the bytes of all other fields alone. -/
theorem getElem?_writeCString {buffer : List UInt8} {offset size : Nat} (hsize : 0 < size)
    (h : offset + size ≤ buffer.length) (value : JsString) {i : Nat}
    (hi : i < offset ∨ offset + size ≤ i) :
    (writeCString buffer offset size value)[i]? = buffer[i]? := by
  have hlen : ((toUtf8 value).take (size - 1)).length ≤ size - 1 := List.length_take_le _ _
  simp only [writeCString]
  generalize (toUtf8 value).take (size - 1) = encoded at hlen ⊢
  -- both writes end before the field does
  have hcopied : (writeAt buffer offset encoded)[i]? = buffer[i]? :=
    getElem?_writeAt (by omega) (by omega)
  have hlength : (writeAt buffer offset encoded).length = buffer.length :=
    length_writeAt (by omega)
  rw [getElem?_writeAt (by omega) (by rw [List.length_singleton]; omega), hcopied]

/-- A field holds a text: a prefix of it and then NULs, at least one; all of it when it has no NUL
    and leaves room for one. -/
structure HoldsText {n : Nat} (field : CharArray n) (text : List UInt8) : Prop where
  cut : ∃ copied, copied <+: text ∧ copied.length < n ∧
    field.bytes = copied ++ List.replicate (n - copied.length) 0
  whole : 0 ∉ text → text.length ≤ n - 1 → cstr field.bytes = text

/-- What `writeCString` leaves in a zeroed field. -/
theorem holdsText_padded {n : Nat} (hn : 0 < n) (text : List UInt8) :
    HoldsText (CharArray.padded n text) text := by
  have hlen : (text.take (n - 1)).length ≤ n - 1 := List.length_take_le _ _
  constructor
  case cut => exact ⟨text.take (n - 1), List.take_prefix _ _, by omega, rfl⟩
  case whole =>
    intro h0 hfits
    rw [CharArray.cstr_padded hn, CString.cstr_eq_self h0, List.take_of_length_le hfits]

/-- A field that nothing was written into holds the empty text. -/
theorem holdsText_zero {n : Nat} (hn : 0 < n) : HoldsText (CharArray.zero n) [] := by
  have hpad : CharArray.padded n [] = CharArray.zero n := CharArray.ext (by simp [CharArray.padded])
  rw [← hpad]
  exact holdsText_padded hn []

/-! ## The two builders -/

/-- A request carries an id, a type, a mode and a text for each of its fields. -/
structure Carries (request : ChatRequest) (messageId : UInt32) (requestType : RequestType)
    (mode : UInt32) (username peerUsername authPayload payload plaintextPayload : List UInt8) :
    Prop where
  messageId : request.messageId = messageId
  requestType : request.requestType = requestType.code
  mode : request.mode = mode
  username : HoldsText request.username username
  peerUsername : HoldsText request.peerUsername peerUsername
  authPayload : HoldsText request.authPayload authPayload
  payload : HoldsText request.payload payload
  plaintextPayload : HoldsText request.plaintextPayload plaintextPayload

/-- The struct of a message carries its three texts. -/
theorem carries_wireRequest (messageId mode : UInt32) (content : JsString)
    (context : EncryptionContext) :
    Carries (wireRequest messageId mode content context) messageId .chatMessage mode
      (toUtf8 context.senderId) (toUtf8 context.conversationId) [] (toUtf8 content) [] where
  messageId := rfl
  requestType := rfl
  mode := rfl
  username := holdsText_padded (by decide) _
  peerUsername := holdsText_padded (by decide) _
  authPayload := holdsText_zero (by decide)
  payload := holdsText_padded (by decide) _
  plaintextPayload := holdsText_zero (by decide)

/-- The struct in the buffer of a password. -/
def wireSha1Request (messageId : UInt32) (email password : JsString) : ChatRequest where
  messageId := messageId
  requestType := RequestType.authLogin.code
  mode := ProcessingMode.sha1.code
  username := .padded _ (toUtf8 email)
  peerUsername := .zero _
  authPayload := .padded _ (toUtf8 password)
  payload := .zero _
  plaintextPayload := .zero _

/-- The struct of a password carries its two texts. -/
theorem carries_wireSha1Request (messageId : UInt32) (email password : JsString) :
    Carries (wireSha1Request messageId email password) messageId .authLogin
      ProcessingMode.sha1.code (toUtf8 email) [] (toUtf8 password) [] [] where
  messageId := rfl
  requestType := rfl
  mode := rfl
  username := holdsText_padded (by decide) _
  peerUsername := holdsText_zero (by decide)
  authPayload := holdsText_padded (by decide) _
  payload := holdsText_zero (by decide)
  plaintextPayload := holdsText_zero (by decide)

/-- The buffer of a password is the struct. -/
theorem buildSha1Request_eq (messageId : UInt32) (email password : JsString) :
    buildSha1Request messageId email password =
      (wireSha1Request messageId email password).toBytes := by
  have huser : (CharArray.padded 32 (toUtf8 email)).bytes.length = 32 := CharArray.size_eq _
  have htype : requestAuthLogin = RequestType.authLogin.code := rfl
  have hmode : processSha1 = ProcessingMode.sha1.code := rfl
  simp only [buildSha1Request, zeroed_fields, wireSha1Request, ChatRequest.toBytes,
    chatMaxUsername, chatMaxPassword, Nat.reduceAdd]
  simp only [writeAt_append_of_le, writeAt_append_left, writeCString_append, writeCString_zero,
    List.length_replicate, length_le32, huser, htype, hmode, Nat.reduceLeDiff, Nat.reduceSub,
    Nat.le_refl, Nat.sub_self, Nat.reduceLT, CharArray.bytes_zero]

/-- The daemon reads the struct. -/
theorem ofBytes_buildSha1Request (messageId : UInt32) (email password : JsString)
    (h : (buildSha1Request messageId email password).length = sizeofChatRequest) :
    ChatRequest.ofBytes (buildSha1Request messageId email password) h =
      wireSha1Request messageId email password := by
  simp only [buildSha1Request_eq, ChatRequest.ofBytes_toBytes]

/-! ## Both directions -/

/-- The backend and the C structs agree on the bytes.  Read as a struct, the buffer of either
    builder carries the id, the type, the mode and the texts that it was built from, and no string
    is written over the edge of its field; of the bytes of a response, `parseResponse` reads the
    id, the status and the string in the payload. -/
theorem wire_agreement :
    (∀ (messageId mode : UInt32) (content : JsString) (context : EncryptionContext),
      Carries (.ofBytes (buildRequest messageId mode content context) (length_buildRequest _ _ _ _))
        messageId .chatMessage mode (toUtf8 context.senderId) (toUtf8 context.conversationId) []
        (toUtf8 content) []) ∧
      (∀ (messageId : UInt32) (email password : JsString),
        Carries (.ofBytes (buildSha1Request messageId email password)
            (length_buildSha1Request _ _ _))
          messageId .authLogin ProcessingMode.sha1.code (toUtf8 email) [] (toUtf8 password) [] []) ∧
      (∀ (buffer : List UInt8) (offset size : Nat) (value : JsString) (i : Nat), 0 < size →
        offset + size ≤ buffer.length → i < offset ∨ offset + size ≤ i →
          (writeCString buffer offset size value)[i]? = buffer[i]?) ∧
      ∀ response : ChatResponse,
        (parseResponse response.toBytes).messageId = response.messageId ∧
          (parseResponse response.toBytes).status = response.status ∧
          (parseResponse response.toBytes).payload = ofUtf8 (cstr response.payload.bytes) := by
  refine ⟨?message, ?password, ?edges, ?response⟩
  case message =>
    intro messageId mode content context
    rw [ofBytes_buildRequest]
    exact carries_wireRequest messageId mode content context
  case password =>
    intro messageId email password
    rw [ofBytes_buildSha1Request]
    exact carries_wireSha1Request messageId email password
  case edges =>
    intro buffer offset size value i hsize hfits hi
    exact getElem?_writeCString hsize hfits value hi
  case response =>
    intro response
    rw [parseResponse_toBytes]
    exact ⟨rfl, rfl, rfl⟩

end ChatSC.Spec
