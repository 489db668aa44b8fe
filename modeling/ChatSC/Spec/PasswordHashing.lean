import ChatSC.Spec.Sha1Digest
import ChatSC.Spec.StoredMessages
import ChatSC.Spec.WireAgreement

/-!
# Which part of a password is hashed

Of a password the driver hashes the bytes before the first NUL, 63 at most: `writeCString` cuts the
UTF-8 after 63 bytes, and `strlen` stops at the first NUL.  A password that starts with a NUL does
not pass the daemon.  So two passwords are told apart exactly when they differ in that part
(`seesWholePasswords_iff`).
-/

namespace ChatSC.Spec

open Backend JsString Native

/-! ## The string that is hashed -/

/-- The bytes that the driver hashes for a request in the SHA-1 mode, when the daemon passes it on;
    `after` is the memory behind the driver's request. -/
def hashedInput (after : List UInt8) (request : ChatRequest) : Option (List UInt8) :=
  match processorValidateRequest request with
  | some _ => none
  | none => some (sha1Input ⟨request, after⟩)

/-- The bytes that the driver hashes for a password. -/
def hashedBytes (messageId : UInt32) (after : List UInt8) (email password : JsString) :
    Option (List UInt8) :=
  hashedInput after (.ofBytes (buildSha1Request messageId email password)
    (length_buildSha1Request messageId email password))

/-- The daemon passes a password on exactly when there is a name and a password. -/
theorem validate_password_iff (messageId : UInt32) (email password : JsString) :
    processorValidateRequest (wireSha1Request messageId email password) = none ↔
      (toUtf8 email).head?.getD 0 ≠ 0 ∧ (toUtf8 password).head?.getD 0 ≠ 0 := by
  -- the first bytes are those of the strings
  have huser : (wireSha1Request messageId email password).username.first =
      (toUtf8 email).head?.getD 0 := CharArray.first_padded (by decide) _
  have hauth : (wireSha1Request messageId email password).authPayload.first =
      (toUtf8 password).head?.getD 0 := CharArray.first_padded (by decide) _
  have hsupported : isSupportedMode (wireSha1Request messageId email password).mode = true := rfl
  have htype : (wireSha1Request messageId email password).requestType =
      RequestType.authLogin.code := rfl
  rw [← huser, ← hauth]
  -- the daemon looks at the name first, then at the password
  by_cases hname : (wireSha1Request messageId email password).username.first = 0
  · simp [processorValidateRequest, hsupported, htype, hname, RequestType.code]
  · by_cases hpass : (wireSha1Request messageId email password).authPayload.first = 0
    · simp [processorValidateRequest, hsupported, htype, hpass, RequestType.code]
    · simp [processorValidateRequest, hsupported, htype, hname, hpass, RequestType.code]

/-- The driver hashes what the field holds of the password. -/
theorem sha1Input_wireSha1Request (messageId : UInt32) (after : List UInt8)
    {email password : JsString} (h : (toUtf8 password).head?.getD 0 ≠ 0) :
    sha1Input ⟨wireSha1Request messageId email password, after⟩ =
      (cstr (toUtf8 password)).take 63 := by
  have hfirst : (wireSha1Request messageId email password).authPayload.first ≠ 0 := by
    rw [wireSha1Request, CharArray.first_padded (by decide)]
    exact h
  rw [sha1Input, if_pos hfirst,
    RequestPtr.authPayloadStr_of_mem (CharArray.zero_mem_padded (by decide) _)]
  exact CharArray.cstr_padded (by decide) _

/-- What is hashed for a password: nothing for one that the daemon refuses, else its bytes before
    the first NUL, cut after 63. -/
theorem hashedBytes_eq (messageId : UInt32) (after : List UInt8) (email password : JsString) :
    hashedBytes messageId after email password =
      if (toUtf8 email).head?.getD 0 ≠ 0 ∧ (toUtf8 password).head?.getD 0 ≠ 0 then
        some ((cstr (toUtf8 password)).take 63)
      else none := by
  have hvalid := validate_password_iff messageId email password
  rw [hashedBytes, ofBytes_buildSha1Request, hashedInput]
  -- the daemon lets the request pass, or nothing is hashed
  cases hcheck : processorValidateRequest (wireSha1Request messageId email password) with
  | none =>
    have hfirst := hvalid.mp hcheck
    simp only [if_pos hfirst, sha1Input_wireSha1Request messageId after hfirst.2]
  | some response =>
    have hrefused : ¬ ((toUtf8 email).head?.getD 0 ≠ 0 ∧ (toUtf8 password).head?.getD 0 ≠ 0) :=
      fun hfirst => nomatch hcheck.symm.trans (hvalid.mpr hfirst)
    simp only [if_neg hrefused]

/-! ## The digest that comes back -/

/-- `hashPasswordWithSha1` resolves only with the digest of the bytes that are hashed. -/
theorem hashPasswordWithSha1_resolved {env : BackendEnv} {io : ExchangeIo}
    {service : AuthProcessingService} {email password digest : JsString}
    (h : (hashPasswordWithSha1 env io service email password).2 = .resolved digest) :
    ∃ s, (∀ messageId after, hashedBytes messageId after email password = some s) ∧
      digest = ofUtf8 (hexDigits (sha1Digest s)) := by
  simp only [hashPasswordWithSha1] at h
  split at h
  · cases h
  split at h
  · simp only [ofBytes_buildSha1Request] at h
    generalize UInt32.ofNat service.nextMessageId = messageId at h
    cases hex : AuthProcessing.exchange io (wireSha1Request messageId email password) with
    | pending =>
      rw [hex] at h
      cases h
    | rejected error =>
      rw [hex] at h
      cases h
    | resolved response =>
      rw [hex, Promise.andThen] at h
      split at h
      · cases h
      · rename_i hstatus
        have hresponse := exchange_resolved (AuthProcessing.exchangeFrom_resolved_iff.mp hex)
        rw [parseResponse_toBytes] at hresponse
        rw [hresponse] at hstatus h
        -- an OK means that the daemon has validated the request
        obtain ⟨hvalid, hreply⟩ := processorReply_ok (Decidable.not_not.mp hstatus)
        have hfirst := (validate_password_iff messageId email password).mp hvalid
        have hdigest := Promise.resolved.inj h
        have hpayload := @payload_sha1
          ⟨wireSha1Request messageId email password, io.deviceIo.after⟩ rfl
        rw [hreply, driverResponse, hpayload, sha1Input_wireSha1Request _ _ hfirst.2,
          List.replicate_succ, cstr_hexDigits] at hdigest
        exact ⟨_, fun messageId after => by rw [hashedBytes_eq, if_pos hfirst], hdigest.symm⟩
  · cases h

/-- It does resolve for every password that the daemon passes on, when nothing fails. -/
theorem hashPasswordWithSha1_resolves {env : BackendEnv} (hhost : env.processorRemoteHost ≠ [])
    {io : ExchangeIo} (hevents : io.events = [.data sizeofChatResponse])
    (hio : io.deviceIo.Succeeds) {service : AuthProcessingService}
    (hid : service.nextMessageId < 2 ^ 32) {email password : JsString} {s : List UInt8}
    (h : hashedBytes 0 [] email password = some s) :
    (hashPasswordWithSha1 env io service email password).2 =
      .resolved (ofUtf8 (hexDigits (sha1Digest s))) := by
  -- whatever is hashed has passed the two checks
  have hfirst : (toUtf8 email).head?.getD 0 ≠ 0 ∧ (toUtf8 password).head?.getD 0 ≠ 0 := by
    rw [hashedBytes_eq] at h
    by_contra hrefused
    rw [if_neg hrefused] at h
    cases h
  have hs : (cstr (toUtf8 password)).take 63 = s := by
    rw [hashedBytes_eq, if_pos hfirst] at h
    exact Option.some.inj h
  generalize hmessage : UInt32.ofNat service.nextMessageId = messageId
  have hvalid := (validate_password_iff messageId email password).mpr hfirst
  have hex : AuthProcessing.exchange io (wireSha1Request messageId email password) = _ :=
    AuthProcessing.exchangeFrom_resolved_iff.mpr
      (exchange_data hevents (wireSha1Request messageId email password))
  have hpayload := @payload_sha1
    ⟨wireSha1Request messageId email password, io.deviceIo.after⟩ rfl
  have hstatus : (driverResponse ⟨wireSha1Request messageId email password,
      io.deviceIo.after⟩).status = statusOk :=
    @status_of_mode ⟨wireSha1Request messageId email password, io.deviceIo.after⟩ .sha1 rfl
  rw [processorReply_eq hio io.driver hvalid, parseResponse_toBytes] at hex
  simp only [hashPasswordWithSha1, if_neg hhost, if_pos hid, ofBytes_buildSha1Request, hmessage,
    hex, Promise.andThen, hstatus, ne_eq, not_true_eq_false, if_false]
  rw [driverResponse, hpayload, sha1Input_wireSha1Request _ _ hfirst.2, hs, List.replicate_succ,
    cstr_hexDigits]

/-! ## Two passwords -/

/-- A string whose first character is U+0000. -/
def StartsWithNul (s : JsString) : Prop := (toUtf8 s).head? = some 0

/-- Hashing tells two passwords apart by the whole of them: the driver hashes the same bytes for
    both only when they are the same, so that two digests that agree are a collision. -/
structure SeesWholePasswords (email password email' password' : JsString) : Prop where
  bytes : ∀ messageId messageId' after after' s,
    hashedBytes messageId after email password = some s →
      hashedBytes messageId' after' email' password' = some s → toUtf8 password = toUtf8 password'
  digests : ∀ env env' io io' service service' digest,
    (hashPasswordWithSha1 env io service email password).2 = .resolved digest →
      (hashPasswordWithSha1 env' io' service' email' password').2 = .resolved digest →
        toUtf8 password = toUtf8 password' ∨
          ∃ s t, (∀ messageId after, hashedBytes messageId after email password = some s) ∧
            (∀ messageId after, hashedBytes messageId after email' password' = some t) ∧
            s ≠ t ∧ sha1Digest s = sha1Digest t

/-- Different strings under one digest are all that is left when the strings tell passwords
    apart. -/
theorem SeesWholePasswords.of_bytes {email password email' password' : JsString}
    (h : ∀ messageId messageId' after after' s,
      hashedBytes messageId after email password = some s →
        hashedBytes messageId' after' email' password' = some s →
          toUtf8 password = toUtf8 password') :
    SeesWholePasswords email password email' password' where
  bytes := h
  digests := by
    intro env env' io io' service service' digest hdigest hdigest'
    obtain ⟨s, hs, hshown⟩ := hashPasswordWithSha1_resolved hdigest
    obtain ⟨t, ht, hshown'⟩ := hashPasswordWithSha1_resolved hdigest'
    -- the strings that were hashed are one, or two under one digest
    by_cases hst : s = t
    · exact .inl (h 0 0 [] [] s (hs 0 []) (hst ▸ ht 0 []))
    · have hascii : ∀ u, toUtf8 (ofUtf8 (hexDigits (sha1Digest u))) = hexDigits (sha1Digest u) :=
        fun u => toUtf8_ofUtf8 fun d hd => (hexDigits_ascii _ d hd).2
      have hhex : hexDigits (sha1Digest s) = hexDigits (sha1Digest t) := by
        rw [← hascii s, ← hascii t, ← hshown, ← hshown']
      exact .inr ⟨s, t, hs, ht, hst, hexDigits_injective hhex⟩

/-- The first byte of a string that is not empty. -/
theorem head?_getD_eq_zero_iff {s : JsString} (h : s ≠ []) :
    (toUtf8 s).head?.getD 0 = 0 ↔ StartsWithNul s := by
  have hbytes := toUtf8_ne_nil h
  unfold StartsWithNul
  cases hutf8 : toUtf8 s with
  | nil => exact absurd hutf8 hbytes
  | cons b rest => simp

/-- Hashing sees the whole of a registered password and of one that is tried at a login exactly when
    the two are the same, or differ within their first 63 bytes with no NUL before the difference,
    or one of the requests is refused because a string in it starts with a NUL. -/
theorem seesWholePasswords_iff {toLowerCase : JsString → JsString}
    {registration registered : RegisterLocalAuthDto} {login tried : LoginLocalAuthDto}
    (hregistered : validateRegisterLocalAuthDto toLowerCase registration = .ok registered)
    (htried : validateLoginLocalAuthDto toLowerCase login = .ok tried) :
    SeesWholePasswords registered.email registered.password tried.email tried.password ↔
      toUtf8 registered.password = toUtf8 tried.password ∨
        CString.DifferWithin 63 (toUtf8 registered.password) (toUtf8 tried.password) ∨
        StartsWithNul registered.email ∨ StartsWithNul registered.password ∨
        StartsWithNul tried.email ∨ StartsWithNul tried.password := by
  obtain ⟨-, hemail, hpassword⟩ := validateRegisterLocalAuthDto_ok hregistered
  obtain ⟨-, hemail', hpassword'⟩ := validateLoginLocalAuthDto_ok htried
  -- all is about the first bytes and the first 63
  rw [← head?_getD_eq_zero_iff hemail, ← head?_getD_eq_zero_iff hpassword,
    ← head?_getD_eq_zero_iff hemail', ← head?_getD_eq_zero_iff hpassword',
    ← CString.take_cstr_ne_iff]
  by_cases hfirst : (toUtf8 registered.email).head?.getD 0 ≠ 0 ∧
      (toUtf8 registered.password).head?.getD 0 ≠ 0
  · by_cases hfirst' : (toUtf8 tried.email).head?.getD 0 ≠ 0 ∧
        (toUtf8 tried.password).head?.getD 0 ≠ 0
    · -- both are hashed
      constructor
      · intro hsees
        by_cases hcut : (cstr (toUtf8 registered.password)).take 63 =
            (cstr (toUtf8 tried.password)).take 63
        · left
          refine hsees.bytes 0 0 [] [] ((cstr (toUtf8 registered.password)).take 63) ?_ ?_
          · rw [hashedBytes_eq, if_pos hfirst]
          · rw [hashedBytes_eq, if_pos hfirst', hcut]
        · exact .inr (.inl hcut)
      · intro hcases
        refine .of_bytes fun messageId messageId' after after' s hs hs' => ?_
        rw [hashedBytes_eq, if_pos hfirst] at hs
        rw [hashedBytes_eq, if_pos hfirst'] at hs'
        rcases hcases with hsame | hcut | hnul
        · exact hsame
        · exact absurd (Option.some.inj (hs.trans hs'.symm)) hcut
        · obtain ⟨hemail0, hpassword0⟩ := hfirst
          obtain ⟨hemail0', hpassword0'⟩ := hfirst'
          simp only [hemail0, hpassword0, hemail0', hpassword0', or_self] at hnul
    · -- the one that is tried is not hashed
      have hnul : (toUtf8 tried.email).head?.getD 0 = 0 ∨
          (toUtf8 tried.password).head?.getD 0 = 0 := by
        rw [not_and_or, not_not, not_not] at hfirst'
        exact hfirst'
      refine ⟨fun _ => .inr (.inr (.inr (.inr hnul))), fun _ => .of_bytes ?_⟩
      intro messageId messageId' after after' s _ hs'
      rw [hashedBytes_eq, if_neg hfirst'] at hs'
      cases hs'
  · -- the one that is registered is not hashed
    have hnul : (toUtf8 registered.email).head?.getD 0 = 0 ∨
        (toUtf8 registered.password).head?.getD 0 = 0 := by
      rw [not_and_or, not_not, not_not] at hfirst
      exact hfirst
    refine ⟨fun _ => ?_, fun _ => .of_bytes ?_⟩
    · rcases hnul with hnul | hnul
      · exact .inr (.inr (.inl hnul))
      · exact .inr (.inr (.inr (.inl hnul)))
    · intro messageId messageId' after after' s hs
      rw [hashedBytes_eq, if_neg hfirst] at hs
      cases hs

/-- `toLowerCase` of ASCII. -/
def asciiLower (s : JsString) : JsString := s.map fun u => if 65 ≤ u ∧ u ≤ 90 then u + 32 else u

/-- A registration of amy. -/
def amyRegistration (password : JsString) : RegisterLocalAuthDto :=
  ⟨js " Amy@chat.vn", js "amy ", js "Amy", password, password⟩

/-- What the validation makes of it. -/
def amyRegistered (password : JsString) : RegisterLocalAuthDto :=
  ⟨js "amy@chat.vn", js "amy", js "Amy", password, password⟩

/-- Two short passwords are told apart. -/
theorem seesWholePasswords_short :
    validateRegisterLocalAuthDto asciiLower (amyRegistration (js "secret")) =
        .ok (amyRegistered (js "secret")) ∧
      validateLoginLocalAuthDto asciiLower ⟨js "AMY@chat.vn", js "Secret"⟩ =
        .ok ⟨js "amy@chat.vn", js "Secret"⟩ ∧
      (SeesWholePasswords (js "amy@chat.vn") (js "secret") (js "amy@chat.vn") (js "Secret") ↔
        toUtf8 (js "secret") = toUtf8 (js "Secret") ∨
          CString.DifferWithin 63 (toUtf8 (js "secret")) (toUtf8 (js "Secret")) ∨
          StartsWithNul (js "amy@chat.vn") ∨ StartsWithNul (js "secret") ∨
          StartsWithNul (js "amy@chat.vn") ∨ StartsWithNul (js "Secret")) ∧
      CString.DifferWithin 63 (toUtf8 (js "secret")) (toUtf8 (js "Secret")) :=
  have hregistered : validateRegisterLocalAuthDto asciiLower (amyRegistration (js "secret")) =
      .ok (amyRegistered (js "secret")) := rfl
  have htried : validateLoginLocalAuthDto asciiLower ⟨js "AMY@chat.vn", js "Secret"⟩ =
      .ok ⟨js "amy@chat.vn", js "Secret"⟩ := rfl
  ⟨hregistered, htried, seesWholePasswords_iff hregistered htried, by decide +kernel⟩

/-- A password of 64 letters. -/
def longPassword (last : UInt16) : JsString := List.replicate 63 97 ++ [last]

/-- The login with another last letter gets the digest that the registration got. -/
theorem longPassword_interchangeable :
    validateRegisterLocalAuthDto asciiLower (amyRegistration (longPassword 98)) =
        .ok (amyRegistered (longPassword 98)) ∧
      validateLoginLocalAuthDto asciiLower ⟨js "amy@chat.vn", longPassword 99⟩ =
        .ok ⟨js "amy@chat.vn", longPassword 99⟩ ∧
      (∃ digest,
        (hashPasswordWithSha1 encryptingEnv quietIo ⟨1⟩ (js "amy@chat.vn")
          (longPassword 98)).2 = .resolved digest ∧
        (hashPasswordWithSha1 encryptingEnv quietIo ⟨2⟩ (js "amy@chat.vn")
          (longPassword 99)).2 = .resolved digest) ∧
      ¬ SeesWholePasswords (js "amy@chat.vn") (longPassword 98) (js "amy@chat.vn")
        (longPassword 99) := by
  have hquiet : quietIo.deviceIo.Succeeds := ⟨rfl, rfl, rfl⟩
  -- 63 bytes of both passwords reach the device
  have hbytes : ∀ last, last = 98 ∨ last = 99 → ∀ messageId after,
      hashedBytes messageId after (js "amy@chat.vn") (longPassword last) =
        some (List.replicate 63 97) := by
    intro last hlast messageId after
    rw [hashedBytes_eq]
    rcases hlast with rfl | rfl
    · decide +kernel
    · decide +kernel
  have hdigest : ∀ last, last = 98 ∨ last = 99 → ∀ service : AuthProcessingService,
      service.nextMessageId < 2 ^ 32 →
        (hashPasswordWithSha1 encryptingEnv quietIo service (js "amy@chat.vn")
          (longPassword last)).2 = .resolved (ofUtf8 (hexDigits (sha1Digest (List.replicate 63 97)))) :=
    fun last hlast service hid =>
      hashPasswordWithSha1_resolves (by decide) rfl hquiet hid (hbytes last hlast 0 [])
  refine ⟨rfl, rfl, ⟨_, hdigest 98 (.inl rfl) ⟨1⟩ (by decide),
    hdigest 99 (.inr rfl) ⟨2⟩ (by decide)⟩, fun hsees => ?_⟩
  have hsame := hsees.bytes 0 0 [] [] _ (hbytes 98 (.inl rfl) 0 []) (hbytes 99 (.inr rfl) 0 [])
  exact absurd hsame (by decide +kernel)

end ChatSC.Spec
