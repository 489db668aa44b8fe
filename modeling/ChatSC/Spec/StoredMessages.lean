import ChatSC.Backend.ObjectId
import ChatSC.Spec.Wire

/-!
# Stored messages

With encryption enabled a message is sent through the daemon twice: `sendMessage` stores what
`encryptForStorage` resolves with, and the display passes that to `decryptForDisplay`.  Each way cuts
the text at the first U+0000 and after 511 bytes of UTF-8, puts U+FFFD for a code point that is cut
and for every surrogate that stands alone, and the two tables cancel (`decrypted_encrypted`).

`displaysAsSent_iff` says of which contents nothing is lost, when both calls resolve.
-/

namespace ChatSC.Spec

open Backend JsString Native Utf8

/-! ## Text through the daemon -/

/-- The code points that pass: those before the first U+0000, as far as 511 bytes go. -/
def passed (cs : List Char) : List Char := cut 511 (cs.takeWhile (· ≠ nul))

/-- A text that has gone through the daemon. -/
theorem ofUtf8_processed {f : UInt8 → UInt8} (hf : AsciiMap f) (s : JsString) :
    ofUtf8 ((cstr ((toUtf8 s).take 511)).map f) = utf16 ((passed (scalars s)).map (mapAscii f)) := by
  have hcstr : cstr (toUtf8 s) = encode ((scalars s).takeWhile (· ≠ nul)) := takeWhile_encode _
  rw [CString.cstr_take, hcstr, List.map_take, map_encode hf, ofUtf8, decode_take_encode,
    cut_map hf, passed]

/-- No U+0000 passes. -/
theorem nul_notMem_passed (cs : List Char) : nul ∉ passed cs := by
  intro h
  rcases mem_cut h with hmem | hnul
  · simpa using List.mem_takeWhile_imp hmem
  · exact absurd hnul (by decide)

/-- Without a U+0000 only the field cuts. -/
theorem passed_eq_cut {cs : List Char} (h : nul ∉ cs) : passed cs = cut 511 cs := by
  have hall : ∀ c ∈ cs, decide (c ≠ nul) = true := by
    intro c hc
    have hne : c ≠ nul := fun heq => h (heq ▸ hc)
    simpa using hne
  rw [passed, List.takeWhile_eq_self_iff.mpr hall]

/-- A mapped code point is U+0000 only when the code point is. -/
theorem mapAscii_ne_nul {f : UInt8 → UInt8} (hf : AsciiMap f) (hzero : ∀ b, f b = 0 ↔ b = 0)
    {c : Char} (h : c ≠ nul) : mapAscii f c ≠ nul := by
  intro hmap
  apply h
  apply zero_mem_utf8EncodeChar.mp
  have h0 : 0 ∈ (String.utf8EncodeChar c).map f := by
    rw [← utf8EncodeChar_mapAscii hf]
    exact zero_mem_utf8EncodeChar.mpr hmap
  obtain ⟨b, hb, hfb⟩ := List.mem_map.mp h0
  rwa [(hzero b).mp hfb] at hb

/-- What has passed once passes again. -/
theorem passed_map_passed {f : UInt8 → UInt8} (hf : AsciiMap f) (hzero : ∀ b, f b = 0 ↔ b = 0)
    (cs : List Char) : passed ((passed cs).map (mapAscii f)) = (passed cs).map (mapAscii f) := by
  have hnul : nul ∉ (passed cs).map (mapAscii f) := by
    intro h
    obtain ⟨c, hc, hmap⟩ := List.mem_map.mp h
    have hne : c ≠ nul := fun heq => nul_notMem_passed cs (heq ▸ hc)
    exact mapAscii_ne_nul hf hzero hne hmap
  rw [passed_eq_cut hnul, cut_map hf, passed, cut_cut]

/-- Encrypting and decrypting: the tables cancel, and what the first way lets pass is left. -/
theorem decrypted_encrypted (s : JsString) :
    ofUtf8 ((cstr ((toUtf8 (ofUtf8 ((cstr ((toUtf8 s).take 511)).map mapForward))).take 511)).map
      mapReverse) = utf16 (passed (scalars s)) := by
  rw [ofUtf8_processed asciiMap_mapReverse, ofUtf8_processed asciiMap_mapForward, scalars_utf16,
    passed_map_passed asciiMap_mapForward mapForward_eq_zero,
    map_mapAscii_map_mapAscii asciiMap_mapForward mapReverse_mapForward]

/-! ## What survives -/

/-- A text of which nothing is lost: no surrogate stands alone, there is no U+0000, and all of it
    fits in the field.  A final U+FFFD may be cut, since its replacement is itself. -/
structure Displayable (s : JsString) : Prop where
  wellFormed : toWellFormed s = s
  noNul : nul ∉ scalars s
  fits : byteLength s ≤ 511 ∨ (byteLength s ≤ 513 ∧ (scalars s).getLast? = some replacement)

/-- All of a text passes exactly when it has no U+0000 and fits. -/
theorem passed_eq_self_iff (cs : List Char) :
    passed cs = cs ↔
      nul ∉ cs ∧ (byteSize cs ≤ 511 ∨ (byteSize cs ≤ 513 ∧ cs.getLast? = some replacement)) := by
  constructor
  · intro h
    have hnul : nul ∉ cs := h ▸ nul_notMem_passed cs
    rw [passed_eq_cut hnul] at h
    exact ⟨hnul, (cut_eq_self_iff 511 cs).mp h⟩
  · intro ⟨hnul, hfits⟩
    rw [passed_eq_cut hnul]
    exact (cut_eq_self_iff 511 cs).mpr hfits

/-- The text that comes back is the text that was sent exactly when nothing of it is lost. -/
theorem utf16_passed_eq_iff (s : JsString) : utf16 (passed (scalars s)) = s ↔ Displayable s := by
  rw [utf16_eq_iff, passed_eq_self_iff]
  exact ⟨fun ⟨hwell, hnul, hfits⟩ => ⟨hwell, hnul, hfits⟩,
    fun ⟨hwell, hnul, hfits⟩ => ⟨hwell, hnul, hfits⟩⟩

/-! ## The two calls -/

/-- A content that `sendMessage` stores in a conversation is displayed as it was sent, whenever both
    calls of the service resolve: whatever happens on the sockets and in the device calls, and
    whatever the service and the driver have done before. -/
def DisplaysAsSent (env : BackendEnv) (content senderId conversationId : JsString)
    (sender conversation : ObjectId) : Prop :=
  ∀ (sendIo displayIo : ExchangeIo) (sendService displayService : ChatEncryptionService)
    (stored : EncryptedContent) (display : DisplayContent),
    (encryptForStorage env sendIo sendService (trim content) ⟨senderId, conversationId⟩).2 =
        .resolved stored →
      (decryptForDisplay env displayIo displayService stored.content (some .encrypted)
        ⟨sender.toString, conversation.toString⟩).2 = .resolved display →
      display.content = trim content

/-- What `encryptForStorage` has stored, when it resolves. -/
theorem encryptForStorage_resolved {env : BackendEnv}
    (henabled : env.chatReverseEncryptionEnabled = true) {io : ExchangeIo}
    {service : ChatEncryptionService} {content : JsString} {context : EncryptionContext}
    {stored : EncryptedContent}
    (h : (encryptForStorage env io service content context).2 = .resolved stored) :
    stored.content = ofUtf8 ((cstr ((toUtf8 content).take 511)).map mapForward) ∧
      (toUtf8 content).head?.getD 0 ≠ 0 := by
  simp only [encryptForStorage, henabled, Bool.not_true, Bool.false_eq_true, if_false] at h
  cases hremote : (processRemote env io service processSubstitution content context
      "REVERSE_ENCRYPTION_UNAVAILABLE"
      "Không thể mã hoá ngược tin nhắn để lưu trữ").2 with
  | pending => exact nomatch hremote ▸ h
  | rejected error => exact nomatch hremote ▸ h
  | resolved payload =>
    rw [hremote] at h
    obtain rfl := Promise.resolved.inj h
    exact processRemote_resolved .substitution (by decide) hremote

/-- What `decryptForDisplay` displays, when it resolves. -/
theorem decryptForDisplay_resolved {env : BackendEnv} {io : ExchangeIo}
    {service : ChatEncryptionService} {content : JsString} {context : EncryptionContext}
    {display : DisplayContent}
    (h : (decryptForDisplay env io service content (some .encrypted) context).2 =
      .resolved display) :
    display.content = ofUtf8 ((cstr ((toUtf8 content).take 511)).map mapReverse) := by
  simp only [decryptForDisplay, ne_eq, not_true_eq_false, if_false] at h
  cases hremote : (processRemote env io service processSubstitutionDecrypt content context
      "REVERSE_DECRYPTION_UNAVAILABLE"
      "Không thể khôi phục nội dung tin nhắn để hiển thị").2 with
  | pending => exact nomatch hremote ▸ h
  | rejected error => exact nomatch hremote ▸ h
  | resolved payload =>
    rw [hremote] at h
    obtain rfl := Promise.resolved.inj h
    exact (processRemote_resolved .substitutionDecrypt (by decide) hremote).1

/-- An exchange in which nothing fails. -/
def quietIo : ExchangeIo where
  events := [.data sizeofChatResponse]
  deviceIo := ⟨true, [], none, none⟩
  driver := .init

/-- A conversation id is a peer name for the daemon. -/
theorem peer_of_ofString? {conversationId : JsString} {conversation : ObjectId}
    (h : ObjectId.ofString? conversationId = some conversation) :
    (toUtf8 conversationId).head?.getD 0 ≠ 0 := by
  obtain ⟨u, rest, rfl, hhex⟩ := ObjectId.exists_cons_of_ofString? h
  -- a hexadecimal digit is an ASCII character and not NUL
  have hrange : 48 ≤ u.toNat ∧ u.toNat ≤ 102 := by
    unfold ObjectId.hexValue at hhex
    split at hhex
    · omega
    split at hhex
    · omega
    split at hhex
    · omega
    · exact absurd hhex (by decide)
  have hlead : isLeading u = false := by
    rw [← Bool.not_eq_true, isLeading_iff]
    omega
  have htrail : isTrailing u = false := by
    rw [← Bool.not_eq_true, isTrailing_iff]
    omega
  have hvalue : (Char.ofNat u.toNat).val.toNat = u.toNat := toNat_ofNat_ascii (by omega)
  rw [toUtf8, head?_encode_ne_zero_iff, scalars_cons hlead htrail]
  refine ⟨Char.ofNat u.toNat, rfl, fun hnul => ?_⟩
  rw [hnul] at hvalue
  have hzero : nul.val.toNat = 0 := rfl
  omega

/-- When nothing fails, a content that does not start with U+0000 is stored and displayed, as what
    passes of it. -/
theorem displays_passed {env : BackendEnv} (henabled : env.chatReverseEncryptionEnabled = true)
    {content conversationId : JsString} {conversation : ObjectId}
    (hconversation : ObjectId.ofString? conversationId = some conversation)
    (hcontent : (toUtf8 content).head?.getD 0 ≠ 0) (senderId : JsString) (sender : ObjectId) :
    ∃ stored, (encryptForStorage env quietIo ⟨1⟩ content ⟨senderId, conversationId⟩).2 =
        .resolved stored ∧
      (decryptForDisplay env quietIo ⟨1⟩ stored.content (some .encrypted)
          ⟨sender.toString, conversation.toString⟩).2 =
        .resolved ⟨utf16 (passed (scalars content)), none⟩ := by
  have hhost := env.host_of_enabled henabled
  have hport := env.port_of_enabled henabled
  have hio : quietIo.deviceIo.Succeeds := ⟨rfl, rfl, rfl⟩
  have hpeer : (toUtf8 conversation.toString).head?.getD 0 ≠ 0 :=
    peer_of_ofString? (ObjectId.ofString?_toString conversation)
  -- the ciphertext does not begin with a NUL either
  have hstored : (toUtf8 (ofUtf8 ((cstr ((toUtf8 content).take 511)).map mapForward))).head?.getD 0
      ≠ 0 := by
    rw [ofUtf8_processed asciiMap_mapForward, toUtf8, scalars_utf16, head?_encode_ne_zero_iff]
    obtain ⟨c, hhead, hne⟩ := (head?_encode_ne_zero_iff _).mp hcontent
    obtain ⟨cs, hscalars⟩ := List.head?_eq_some_iff.mp hhead
    refine ⟨mapAscii mapForward c, ?_, mapAscii_ne_nul asciiMap_mapForward mapForward_eq_zero hne⟩
    have hfits : c.utf8Size ≤ 511 := Nat.le_trans c.utf8Size_le_four (by decide)
    rw [hscalars, passed, List.takeWhile_cons_of_pos (by simpa using hne), cut, if_pos hfits]
    rfl
  refine ⟨⟨ofUtf8 ((cstr ((toUtf8 content).take 511)).map mapForward), .encrypted, none⟩, ?_, ?_⟩
  · have hremote := processRemote_resolves hhost hport quietIo rfl hio ⟨1⟩ (by decide)
      .substitution (by decide) ⟨senderId, conversationId⟩ (peer_of_ofString? hconversation) hcontent
      "REVERSE_ENCRYPTION_UNAVAILABLE" "Không thể mã hoá ngược tin nhắn để lưu trữ"
    simp only [encryptForStorage, henabled, Bool.not_true, Bool.false_eq_true, if_false]
    rw [show processSubstitution = ProcessingMode.substitution.code from rfl, hremote]
    rfl
  · have hremote := processRemote_resolves hhost hport quietIo rfl hio ⟨1⟩ (by decide)
      .substitutionDecrypt (by decide) ⟨sender.toString, conversation.toString⟩ hpeer hstored
      "REVERSE_DECRYPTION_UNAVAILABLE" "Không thể khôi phục nội dung tin nhắn để hiển thị"
    rw [show modeMap .substitutionDecrypt = mapReverse from rfl, decrypted_encrypted] at hremote
    simp only [decryptForDisplay, ne_eq, not_true_eq_false, if_false]
    rw [show processSubstitutionDecrypt = ProcessingMode.substitutionDecrypt.code from rfl, hremote]
    rfl

/-- A content is displayed as it was sent exactly when it is never stored, since it starts with
    U+0000 and the daemon refuses it, or when nothing of it is lost. -/
theorem displaysAsSent_iff {env : BackendEnv} (henabled : env.chatReverseEncryptionEnabled = true)
    {content senderId conversationId : JsString} {sender conversation : ObjectId}
    (hcontent : trim content ≠ [])
    (hconversation : ObjectId.ofString? conversationId = some conversation) :
    DisplaysAsSent env content senderId conversationId sender conversation ↔
      (scalars (trim content)).head? = some nul ∨ Displayable (trim content) := by
  constructor
  · intro h
    by_cases hnul : (scalars (trim content)).head? = some nul
    · exact .inl hnul
    · right
      have hfirst : (toUtf8 (trim content)).head?.getD 0 ≠ 0 := by
        obtain ⟨c, hc⟩ := exists_head?_scalars hcontent
        rw [toUtf8, head?_encode_ne_zero_iff]
        exact ⟨c, hc, fun heq => hnul (heq ▸ hc)⟩
      obtain ⟨stored, hstored, hdisplay⟩ :=
        displays_passed henabled hconversation hfirst senderId sender
      exact (utf16_passed_eq_iff _).mp (h quietIo quietIo ⟨1⟩ ⟨1⟩ stored _ hstored hdisplay)
  · intro h sendIo displayIo sendService displayService stored display hstored hdisplay
    obtain ⟨hcontents, hfirst⟩ := encryptForStorage_resolved henabled hstored
    have hdisplayed := decryptForDisplay_resolved hdisplay
    rw [hcontents, decrypted_encrypted] at hdisplayed
    -- a message that begins with a NUL is never stored
    rcases h with hnul | hdisplayable
    · obtain ⟨c, hc, hne⟩ := (head?_encode_ne_zero_iff _).mp hfirst
      exact absurd (Option.some.inj (hc.symm.trans hnul)) hne
    · rw [hdisplayed]
      exact (utf16_passed_eq_iff _).mpr hdisplayable

/-- A configuration with encryption enabled. -/
def encryptingEnv : BackendEnv where
  chatReverseEncryptionEnabled := true
  processorRemoteHost := js "processor"
  processorRemotePort := 9191
  host_of_enabled := fun _ => by decide
  port_of_enabled := fun _ => by decide

/-- An object id of zeros. -/
def zeroId : ObjectId := ⟨List.replicate 24 0, by decide⟩

/-- A short message is displayed as it was sent. -/
theorem displaysAsSent_hi :
    trim (js " hi ") ≠ [] ∧ ObjectId.ofString? zeroId.toString = some zeroId ∧
      encryptingEnv.chatReverseEncryptionEnabled = true ∧
      (DisplaysAsSent encryptingEnv (js " hi ") zeroId.toString zeroId.toString zeroId zeroId ↔
        (scalars (trim (js " hi "))).head? = some nul ∨ Displayable (trim (js " hi "))) :=
  ⟨by decide, ObjectId.ofString?_toString _, rfl,
    displaysAsSent_iff rfl (by decide) (ObjectId.ofString?_toString _)⟩

/-- A message of 512 letters. -/
def longMessage : JsString := List.replicate 512 97

/-- A long message is cut, and is not displayed as it was sent. -/
theorem longMessage_displayed_cut :
    trim longMessage = longMessage ∧
      ¬ DisplaysAsSent encryptingEnv longMessage zeroId.toString zeroId.toString zeroId zeroId := by
  have htrim : trim longMessage = longMessage := by decide +kernel
  refine ⟨htrim, fun h => ?_⟩
  have hfirst : (toUtf8 longMessage).head?.getD 0 ≠ 0 := by decide +kernel
  have henabled : encryptingEnv.chatReverseEncryptionEnabled = true := rfl
  obtain ⟨stored, hstored, hdisplay⟩ :=
    displays_passed henabled (ObjectId.ofString?_toString zeroId) hfirst zeroId.toString zeroId
  rw [DisplaysAsSent, htrim] at h
  have hsame := h quietIo quietIo ⟨1⟩ ⟨1⟩ stored _ hstored hdisplay
  have hfits := ((utf16_passed_eq_iff longMessage).mp hsame).fits
  have hlong : byteLength longMessage = 512 := by decide +kernel
  have hlast : (scalars longMessage).getLast? ≠ some replacement := by decide +kernel
  rcases hfits with hshort | hcut
  · omega
  · exact hlast hcut.2

end ChatSC.Spec
