import ChatSC.ForStd.Buffer

/-!
# The shared protocol structs (`app/shared/protocol.h`)

Requests and responses are C structs that are written to sockets and to the device raw, so a
request may hold any bytes: `ChatRequest` and `ChatResponse` keep every byte of their `char`
fields and the raw integers of their enum fields.  The enums of the header are the inductive types
below, with `code` for the integer.

The fields are contiguous (no field needs padding), so a string that has no NUL in its field goes on
in the next one, and behind the last field in whatever memory follows the struct.  `RequestPtr` and
`ResponsePtr` are what a pointer to such a struct points at: the struct and the bytes behind it.
-/

namespace ChatSC.Native

open Buffer

abbrev chatMaxUsername : Nat := 32
abbrev chatMaxPassword : Nat := 64
abbrev chatMaxMessage : Nat := 512
abbrev chatMaxResult : Nat := 512

instance : NeZero chatMaxUsername := ⟨by decide⟩

instance : NeZero chatMaxMessage := ⟨by decide⟩

/-- `processing_mode_t` -/
inductive ProcessingMode where
  | substitution
  | sha1
  | substitutionDecrypt
deriving DecidableEq, Repr

/-- `request_type_t` -/
inductive RequestType where
  | authLogin
  | chatMessage
  | logout
  | authRegister
  | chatSelectPeer
deriving DecidableEq, Repr

/-- `response_type_t` -/
inductive ResponseType where
  | ack
  | chatDelivery
deriving DecidableEq, Repr

/-- `response_status_t` -/
inductive ResponseStatus where
  | ok
  | authRequired
  | authFailed
  | driverError
  | invalidRequest
  | userExists
  | userNotFound
  | peerOffline
  | peerRequired
  | delivered
  | registerSuccess
  | alreadyOnline
deriving DecidableEq, Repr

/-- The integer of a processing mode. -/
def ProcessingMode.code : ProcessingMode → UInt32
  | .substitution => 1
  | .sha1 => 2
  | .substitutionDecrypt => 3

/-- The integer of a request type. -/
def RequestType.code : RequestType → UInt32
  | .authLogin => 1
  | .chatMessage => 2
  | .logout => 3
  | .authRegister => 4
  | .chatSelectPeer => 5

/-- The integer of a response type. -/
def ResponseType.code : ResponseType → UInt32
  | .ack => 1
  | .chatDelivery => 2

/-- The integer of a response status. -/
def ResponseStatus.code : ResponseStatus → Int32
  | .ok => 0
  | .authRequired => 1
  | .authFailed => 2
  | .driverError => 3
  | .invalidRequest => 4
  | .userExists => 5
  | .userNotFound => 6
  | .peerOffline => 7
  | .peerRequired => 8
  | .delivered => 9
  | .registerSuccess => 10
  | .alreadyOnline => 11

theorem RequestType.code_injective {a b : RequestType} (h : a.code = b.code) : a = b := by
  cases a <;> cases b <;> first | rfl | exact absurd h (by decide)

theorem ResponseStatus.code_injective {a b : ResponseStatus} (h : a.code = b.code) : a = b := by
  cases a <;> cases b <;> first | rfl | exact absurd h (by decide)

/-- `chat_request_t` -/
structure ChatRequest where
  messageId : UInt32
  requestType : UInt32
  mode : UInt32
  username : CharArray chatMaxUsername
  peerUsername : CharArray chatMaxUsername
  authPayload : CharArray chatMaxPassword
  payload : CharArray chatMaxMessage
  plaintextPayload : CharArray chatMaxMessage
deriving DecidableEq

/-- `chat_response_t` -/
structure ChatResponse where
  messageId : UInt32
  responseType : UInt32
  status : Int32
  fromUsername : CharArray chatMaxUsername
  peerUsername : CharArray chatMaxUsername
  payload : CharArray chatMaxResult
deriving DecidableEq

/-- `memset(&request, 0, sizeof(request))` -/
def ChatRequest.zero : ChatRequest where
  messageId := 0
  requestType := 0
  mode := 0
  username := .zero _
  peerUsername := .zero _
  authPayload := .zero _
  payload := .zero _
  plaintextPayload := .zero _

/-- `memset(&response, 0, sizeof(response))` -/
def ChatResponse.zero : ChatResponse where
  messageId := 0
  responseType := 0
  status := 0
  fromUsername := .zero _
  peerUsername := .zero _
  payload := .zero _

/-! ## The structs as bytes -/

/-- `sizeof(chat_request_t)` -/
def sizeofChatRequest : Nat := 1164

/-- `sizeof(chat_response_t)` -/
def sizeofChatResponse : Nat := 588

/-- The bytes of a request on a little-endian machine. -/
def ChatRequest.toBytes (r : ChatRequest) : List UInt8 :=
  le32 r.messageId ++ (le32 r.requestType ++ (le32 r.mode ++ (r.username.bytes ++
    (r.peerUsername.bytes ++ (r.authPayload.bytes ++ (r.payload.bytes ++
      r.plaintextPayload.bytes))))))

/-- The bytes of a response on a little-endian machine. -/
def ChatResponse.toBytes (r : ChatResponse) : List UInt8 :=
  le32 r.messageId ++ (le32 r.responseType ++ (le32 r.status.toUInt32 ++ (r.fromUsername.bytes ++
    (r.peerUsername.bytes ++ r.payload.bytes))))

/-- The request in a buffer of its size, as `read_full` leaves it in the struct. -/
def ChatRequest.ofBytes (bytes : List UInt8) (h : bytes.length = sizeofChatRequest) :
    ChatRequest where
  messageId := readLe32 (slice bytes 0 4)
  requestType := readLe32 (slice bytes 4 4)
  mode := readLe32 (slice bytes 8 4)
  username := .ofSlice bytes 12 _ (by rw [h]; decide)
  peerUsername := .ofSlice bytes 44 _ (by rw [h]; decide)
  authPayload := .ofSlice bytes 76 _ (by rw [h]; decide)
  payload := .ofSlice bytes 140 _ (by rw [h]; decide)
  plaintextPayload := .ofSlice bytes 652 _ (by rw [h]; decide)

@[simp] theorem ChatRequest.length_toBytes (r : ChatRequest) :
    r.toBytes.length = sizeofChatRequest := by
  simp only [toBytes, List.length_append, length_le32, CharArray.size_eq]
  rfl

@[simp] theorem ChatResponse.length_toBytes (r : ChatResponse) :
    r.toBytes.length = sizeofChatResponse := by
  simp only [toBytes, List.length_append, length_le32, CharArray.size_eq]
  rfl

/-- A request is read back from its bytes. -/
theorem ChatRequest.ofBytes_toBytes (r : ChatRequest) (h : r.toBytes.length = sizeofChatRequest) :
    ofBytes r.toBytes h = r := by
  have huser : r.username.bytes.length = 32 := r.username.size_eq
  have hpeer : r.peerUsername.bytes.length = 32 := r.peerUsername.size_eq
  have hauth : r.authPayload.bytes.length = 64 := r.authPayload.size_eq
  have hpayload : r.payload.bytes.length = 512 := r.payload.size_eq
  have hplain : r.plaintextPayload.bytes.length = 512 := r.plaintextPayload.size_eq
  have hfield : ∀ {n offset : Nat} {a : CharArray n} (h : offset + n ≤ r.toBytes.length),
      slice r.toBytes offset n = a.bytes → CharArray.ofSlice r.toBytes offset n h = a :=
    fun h heq => CharArray.ext heq
  have hfields : ofBytes r.toBytes h = ⟨r.messageId, r.requestType, r.mode, r.username,
      r.peerUsername, r.authPayload, r.payload, r.plaintextPayload⟩ := by
    simp only [ofBytes, mk.injEq]
    refine ⟨?_, ?_, ?_, hfield _ ?_, hfield _ ?_, hfield _ ?_, hfield _ ?_, hfield _ ?_⟩
    all_goals simp [toBytes, slice_append_of_le, slice_append_left, slice_all, huser, hpeer, hauth,
      hpayload, hplain]
  exact hfields

/-! ## Strings in a struct -/

/-- What a `const chat_request_t *` points at: the struct and the memory behind it. -/
structure RequestPtr extends ChatRequest where
  after : List UInt8
deriving DecidableEq

/-- What a `const chat_response_t *` points at: the struct and the memory behind it. -/
structure ResponsePtr extends ChatResponse where
  after : List UInt8
deriving DecidableEq

namespace RequestPtr

/-- The memory from `request->payload` on. -/
def payloadMem (r : RequestPtr) : List UInt8 :=
  r.payload.bytes ++ (r.plaintextPayload.bytes ++ r.after)

/-- The memory from `request->auth_payload` on. -/
def authPayloadMem (r : RequestPtr) : List UInt8 := r.authPayload.bytes ++ r.payloadMem

/-- The memory from `request->peer_username` on. -/
def peerUsernameMem (r : RequestPtr) : List UInt8 := r.peerUsername.bytes ++ r.authPayloadMem

/-- The memory from `request->username` on. -/
def usernameMem (r : RequestPtr) : List UInt8 := r.username.bytes ++ r.peerUsernameMem

/-- `request->username` as a C string. -/
def usernameStr (r : RequestPtr) : List UInt8 := cstr r.usernameMem

/-- `request->peer_username` as a C string. -/
def peerUsernameStr (r : RequestPtr) : List UInt8 := cstr r.peerUsernameMem

/-- `request->auth_payload` as a C string. -/
def authPayloadStr (r : RequestPtr) : List UInt8 := cstr r.authPayloadMem

/-- `request->payload` as a C string. -/
def payloadStr (r : RequestPtr) : List UInt8 := cstr r.payloadMem

/-- A username that ends inside its field is the string of the field. -/
theorem usernameStr_of_mem {r : RequestPtr} (h : 0 ∈ r.username.bytes) :
    r.usernameStr = cstr r.username.bytes := CString.cstr_append_of_mem h _

/-- An authentication payload that ends inside its field is the string of the field. -/
theorem authPayloadStr_of_mem {r : RequestPtr} (h : 0 ∈ r.authPayload.bytes) :
    r.authPayloadStr = cstr r.authPayload.bytes := CString.cstr_append_of_mem h _

/-- A payload that ends inside its field is the string of the field. -/
theorem payloadStr_of_mem {r : RequestPtr} (h : 0 ∈ r.payload.bytes) :
    r.payloadStr = cstr r.payload.bytes := CString.cstr_append_of_mem h _

end RequestPtr

namespace ResponsePtr

/-- The memory from `response.payload` on. -/
def payloadMem (r : ResponsePtr) : List UInt8 := r.payload.bytes ++ r.after

/-- `response.payload` as a C string. -/
def payloadStr (r : ResponsePtr) : List UInt8 := cstr r.payloadMem

/-- `response.from_username` as a C string. -/
def fromUsernameStr (r : ResponsePtr) : List UInt8 :=
  cstr (r.fromUsername.bytes ++ (r.peerUsername.bytes ++ r.payloadMem))

/-- A payload that ends inside its field is the string of the field. -/
theorem payloadStr_of_mem {r : ResponsePtr} (h : 0 ∈ r.payload.bytes) :
    r.payloadStr = cstr r.payload.bytes := CString.cstr_append_of_mem h _

/-- A sender name that ends inside its field is the string of the field. -/
theorem fromUsernameStr_of_mem {r : ResponsePtr} (h : 0 ∈ r.fromUsername.bytes) :
    r.fromUsernameStr = cstr r.fromUsername.bytes := CString.cstr_append_of_mem h _

end ResponsePtr

end ChatSC.Native
