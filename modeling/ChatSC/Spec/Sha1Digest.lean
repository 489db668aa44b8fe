import ChatSC.Spec.Substitution
import ChatSC.Native.Driver

/-!
# What SHA-1 leaves in a response

`kernel_sha1_transform` prints the digest of the C string at its input as 40 lowercase digits, so
the payload of a response says which digest it was.
-/

namespace ChatSC.Spec

open Buffer Native

/-- The digest of a string. -/
def sha1Digest (s : List UInt8) : List UInt8 := sha1Final (sha1Update sha1Init s)

/-- The digits of a digest. -/
def hexDigits (digest : List UInt8) : List UInt8 := digest.flatMap hexByte

theorem length_sha1Digest (s : List UInt8) : (sha1Digest s).length = 20 := rfl

@[simp] theorem hexDigits_nil : hexDigits [] = [] := rfl

@[simp] theorem hexDigits_cons (b : UInt8) (digest : List UInt8) :
    hexDigits (b :: digest) = hexByte b ++ hexDigits digest := rfl

theorem length_hexDigits (digest : List UInt8) :
    (hexDigits digest).length = 2 * digest.length := by
  induction digest with
  | nil => rfl
  | cons b digest ih =>
    have hbyte : (hexByte b).length = 2 := rfl
    rw [hexDigits_cons, List.length_append, List.length_cons, ih, hbyte]
    omega

/-! ## Digits say which byte it was -/

/-- The number that a lowercase digit stands for. -/
def digitValue (d : UInt8) : UInt8 := if d < 58 then d - 48 else d - 87

/-- The number that two digits stand for. -/
def byteValue : List UInt8 → UInt8
  | [hi, lo] => 16 * digitValue hi + digitValue lo
  | _ => 0

theorem byteValue_hexByte (b : UInt8) : byteValue (hexByte b) = b :=
  forall_byte (p := fun b => byteValue (hexByte b) = b) (by decide +kernel) b

/-- Different bytes are printed differently. -/
theorem hexByte_injective {a b : UInt8} (h : hexByte a = hexByte b) : a = b := by
  rw [← byteValue_hexByte a, h, byteValue_hexByte]

/-- Different digests are printed differently. -/
theorem hexDigits_injective {a b : List UInt8} (h : hexDigits a = hexDigits b) : a = b := by
  induction a generalizing b with
  | nil =>
    cases b with
    | nil => rfl
    | cons y b => cases h
  | cons x a ih =>
    cases b with
    | nil => cases h
    | cons y b =>
      have hparts := List.append_inj h rfl
      rw [hexByte_injective hparts.1, ih hparts.2]

/-- A digit is a character of ASCII and no NUL. -/
theorem hexByte_ascii (b : UInt8) : ∀ d ∈ hexByte b, d ≠ 0 ∧ d.toNat < 0x80 := by
  have hall : (hexByte b).all (fun d => decide (d ≠ 0 ∧ d.toNat < 0x80)) = true :=
    -- stated with `all`, so that only the two digits are tried and not every byte
    forall_byte (p := fun b => (hexByte b).all (fun d => decide (d ≠ 0 ∧ d.toNat < 0x80)) = true)
      (by decide +kernel) b
  intro d hd
  exact of_decide_eq_true (List.all_eq_true.mp hall d hd)

theorem hexDigits_ascii (digest : List UInt8) : ∀ d ∈ hexDigits digest, d ≠ 0 ∧ d.toNat < 0x80 := by
  intro d hd
  obtain ⟨b, _, hb⟩ := List.mem_flatMap.mp hd
  exact hexByte_ascii b d hb

/-! ## The printing loop -/

/-- The loop prints its digits over what is there, and leaves a byte behind them that belongs to the
    last NUL. -/
theorem sha1HexLoop_append {i : Nat} {digest printed output : List UInt8}
    (hprinted : printed.length = i * 2) (hroom : 2 * digest.length < output.length) :
    ∃ b, sha1HexLoop i digest (printed ++ output) =
      printed ++ hexDigits digest ++ b :: output.drop (2 * digest.length + 1) := by
  induction digest generalizing i output printed with
  | nil =>
    obtain ⟨b, tail, rfl⟩ := List.exists_cons_of_length_pos (Nat.zero_lt_of_lt hroom)
    exact ⟨b, by simp [sha1HexLoop]⟩
  | cons b digest ih =>
    rw [List.length_cons] at hroom
    have hnext : (printed ++ hexByte b).length = (i + 1) * 2 := by
      have hbyte : (hexByte b).length = 2 := rfl
      rw [List.length_append, hprinted, hbyte]
      omega
    have hwrite : writeAt (printed ++ output) (i * 2) (hexByte b ++ [0]) =
        (printed ++ hexByte b) ++ 0 :: output.drop 3 := by
      rw [writeAt_append_of_le (Nat.le_of_eq hprinted), hprinted, Nat.sub_self, List.append_assoc]
      rfl
    have hleft : 2 * digest.length < (0 :: output.drop 3).length := by
      rw [List.length_cons, List.length_drop]
      omega
    obtain ⟨last, hlast⟩ := ih hnext hleft
    have hdrop : (0 :: output.drop 3).drop (2 * digest.length + 1) =
        output.drop (2 * (digest.length + 1) + 1) := by
      rw [List.drop_succ_cons, List.drop_drop]
      congr 1
      omega
    rw [hdrop] at hlast
    refine ⟨last, ?_⟩
    rw [sha1HexLoop, hwrite, hlast, hexDigits_cons, List.append_assoc printed, List.length_cons]

/-- What `kernel_sha1_transform` leaves at its output: the digits, a NUL, and what was there. -/
theorem kernelSha1Transform_of_le {input output : List UInt8} {size : Nat} (hsize : 41 ≤ size)
    (hroom : size ≤ output.length) : kernelSha1Transform input output size =
      hexDigits (sha1Digest (cstr input)) ++ 0 :: output.drop 41 := by
  have hdigits : (hexDigits (sha1Digest (cstr input))).length = 40 := length_hexDigits _
  have hlength : 2 * (sha1Digest (cstr input)).length = 40 := by rw [length_sha1Digest]
  have hfits : 2 * (sha1Digest (cstr input)).length < output.length := by omega
  have hnone : ([] : List UInt8).length = 0 * 2 := rfl
  obtain ⟨b, hloop⟩ := sha1HexLoop_append hnone hfits
  rw [List.nil_append, List.nil_append, hlength] at hloop
  rw [kernelSha1Transform, if_neg (Nat.not_lt.mpr hsize)]
  show (sha1HexLoop 0 (sha1Digest (cstr input)) output).set 40 0 = _
  rw [hloop, List.set_append_right 40 0 (Nat.le_of_eq hdigits), hdigits]
  rfl

/-- What `kernel_sha1_transform` leaves in the payload. -/
theorem kernelSha1Transform_eq (input : List UInt8) :
    kernelSha1Transform input (CharArray.zero chatMaxResult).bytes chatMaxResult =
      hexDigits (sha1Digest (cstr input)) ++ List.replicate 472 0 := by
  have hroom : chatMaxResult ≤ (CharArray.zero chatMaxResult).bytes.length :=
    Nat.le_of_eq (CharArray.zero chatMaxResult).size_eq.symm
  rw [kernelSha1Transform_of_le (by decide) hroom]
  rfl

/-- The payload as a string. -/
theorem cstr_hexDigits (digest pad : List UInt8) :
    cstr (hexDigits digest ++ 0 :: pad) = hexDigits digest :=
  CString.cstr_append_zero (fun h => (hexDigits_ascii digest 0 h).1 rfl) pad

/-! ## The SHA-1 mode of the driver -/

/-- The string that the driver hashes. -/
def sha1Input (request : RequestPtr) : List UInt8 :=
  if request.authPayload.first ≠ 0 then request.authPayloadStr else request.payloadStr

/-- The payload in the SHA-1 mode. -/
theorem payload_sha1 {request : RequestPtr} (hmode : request.mode = ProcessingMode.sha1.code) :
    (processPayload request).1.bytes =
      hexDigits (sha1Digest (sha1Input request)) ++ List.replicate 472 0 := by
  simp only [processPayload, if_pos hmode, kernelSha1Transform_eq, sha1Input]
  split <;> rfl

end ChatSC.Spec
