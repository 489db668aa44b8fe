import ChatSC.ForStd.JsString

/-!
# URI components

`encodeURIComponent` and `decodeURIComponent`.  Every code point that is not unreserved is written
as the bytes of its UTF-8, each of them as a percent sign and two digits.  Both functions throw a
`URIError`, here `none`: the one for a surrogate that stands alone, the other for digits or bytes
that nothing is written as.

What was encoded is decoded to itself (`decodeURIComponent_of_encode`), and has no code unit that a
cookie or a query takes for a delimiter (`mem_of_encode`).
-/

namespace JsString

open Utf8

/-- `%` -/
def percent : UInt16 := 0x25

/-- A digit of a number in base 16, in upper case. -/
def hexDigit (n : Nat) : UInt16 := UInt16.ofNat (if n < 10 then 0x30 + n else 0x41 + (n - 10))

/-- The value of a digit in base 16, in either case. -/
def hexValue (u : UInt16) : Option Nat :=
  if 0x30 ≤ u ∧ u ≤ 0x39 then some (u.toNat - 0x30)
  else if 0x41 ≤ u ∧ u ≤ 0x46 then some (u.toNat - 0x41 + 10)
  else if 0x61 ≤ u ∧ u ≤ 0x66 then some (u.toNat - 0x61 + 10)
  else none

/-- The letters, the digits and `-_.!~*'()`, which stand for themselves. -/
def isUnreserved (u : UInt16) : Bool :=
  (0x61 ≤ u && u ≤ 0x7A) || (0x41 ≤ u && u ≤ 0x5A) || (0x30 ≤ u && u ≤ 0x39) ||
    u ∈ js "-_.!~*'()"

/-! ## Encoding -/

/-- A byte as a percent sign and two digits. -/
def percentEncode (b : UInt8) : JsString :=
  [percent, hexDigit (b.toNat / 16), hexDigit (b.toNat % 16)]

/-- What a code point is written as. -/
def encodeChar (c : Char) : JsString :=
  if (utf16Char c).all isUnreserved then utf16Char c
  else (String.utf8EncodeChar c).flatMap percentEncode

/-- `encodeURIComponent(s)` -/
def encodeURIComponent (s : JsString) : Option JsString :=
  if toWellFormed s = s then some ((scalars s).flatMap encodeChar) else none

/-! ## Decoding -/

/-- The number of leading ones of the first byte of a sequence, up to five. -/
def leadingOnes (b : Nat) : Nat :=
  if b < 0x80 then 0 else if b < 0xC0 then 1 else if b < 0xE0 then 2 else if b < 0xF0 then 3
  else if b < 0xF8 then 4 else 5

/-- The code point whose UTF-8 the bytes are. -/
def codePoint? (octets : List UInt8) : Option Char :=
  match decode octets with
  | [c] => if String.utf8EncodeChar c = octets then some c else none
  | _ => none

/-- The rest of the string, with the octets of a code point that is not complete and the number of
    those that it still needs. -/
def decodeRest (octets : List UInt8) (needed : Nat) : JsString → Option JsString
  | [] => if needed = 0 then some [] else none
  | u :: s =>
    if u ≠ percent then
      if needed = 0 then (decodeRest [] 0 s).map (u :: ·) else none
    else
      match s with
      | high :: low :: s =>
        match hexValue high, hexValue low with
        | some high, some low =>
          let b := high * 16 + low
          let octets := octets ++ [UInt8.ofNat b]
          match needed with
          | 0 =>
            let n := leadingOnes b
            if n = 0 then (decodeRest [] 0 s).map (UInt16.ofNat b :: ·)
            else if n = 1 ∨ 4 < n then none
            else decodeRest octets (n - 1) s
          | 1 =>
            match codePoint? octets with
            | none => none
            | some c => (decodeRest [] 0 s).map (utf16Char c ++ ·)
          | needed + 2 => decodeRest octets (needed + 1) s
        | _, _ => none
      | _ => none

/-- `decodeURIComponent(s)` -/
def decodeURIComponent (s : JsString) : Option JsString := decodeRest [] 0 s

example : encodeURIComponent (js "a b;\u20ac") = some (js "a%20b%3B%E2%82%AC") := by decide +kernel

example : decodeURIComponent (js "a%20b%3b%E2%82%AC") = some (js "a b;\u20ac") ∧
    decodeURIComponent (js "%E2%82") = none := by decide +kernel

/-! ## One byte -/

theorem hexValue_hexDigit {n : Nat} (h : n < 16) : hexValue (hexDigit n) = some n := by
  have hall : ∀ k : Fin 16, hexValue (hexDigit k) = some k.val := by decide
  exact hall ⟨n, h⟩

/-- A byte that was written is read. -/
theorem decodeRest_percentEncode (octets : List UInt8) (needed : Nat) (b : UInt8) (s : JsString) :
    decodeRest octets needed (percentEncode b ++ s) =
      match needed with
      | 0 =>
        if leadingOnes b.toNat = 0 then (decodeRest [] 0 s).map (UInt16.ofNat b.toNat :: ·)
        else if leadingOnes b.toNat = 1 ∨ 4 < leadingOnes b.toNat then none
        else decodeRest (octets ++ [b]) (leadingOnes b.toNat - 1) s
      | 1 =>
        match codePoint? (octets ++ [b]) with
        | none => none
        | some c => (decodeRest [] 0 s).map (utf16Char c ++ ·)
      | needed + 2 => decodeRest (octets ++ [b]) (needed + 1) s := by
  have hb : b.toNat < 256 := b.toNat_lt
  -- the two digits give the byte back
  have hvalue : b.toNat / 16 * 16 + b.toNat % 16 = b.toNat := Nat.div_add_mod' _ _
  rw [percentEncode, List.cons_append, List.cons_append, List.cons_append, List.nil_append,
    decodeRest]
  simp only [ne_eq, not_true_eq_false, if_false, hexValue_hexDigit (Nat.mod_lt _ (by omega)),
    hexValue_hexDigit (show b.toNat / 16 < 16 by omega), hvalue, UInt8.ofNat_toNat]

/-! ## One code point -/

/-- The bytes of a code point: one, or as many as the first one says. -/
theorem utf8EncodeChar_cases (c : Char) :
    c.val.toNat < 0x80 ∧ String.utf8EncodeChar c = [UInt8.ofNat c.val.toNat] ∨
      ∃ b bytes, String.utf8EncodeChar c = b :: bytes ∧ bytes ≠ [] ∧ bytes.length ≤ 3 ∧
        leadingOnes b.toNat = bytes.length + 1 := by
  have hvalid := valid_toNat c
  unfold String.utf8EncodeChar
  generalize c.val.toNat = v at hvalid ⊢
  simp only
  split
  · -- one byte
    exact .inl ⟨by omega, rfl⟩
  right
  split
  · -- two bytes: the first one says so, as do those below
    refine ⟨_, _, rfl, List.cons_ne_nil _ _, by simp, ?_⟩
    rw [Utf8.toNat_ofNat (by omega), leadingOnes, if_neg (by omega), if_neg (by omega),
      if_pos (by omega), List.length_singleton]
  split
  · refine ⟨_, _, rfl, List.cons_ne_nil _ _, by simp, ?_⟩
    rw [Utf8.toNat_ofNat (by omega), leadingOnes, if_neg (by omega), if_neg (by omega),
      if_neg (by omega), if_pos (by omega)]
    rfl
  · refine ⟨_, _, rfl, List.cons_ne_nil _ _, by simp, ?_⟩
    rw [Utf8.toNat_ofNat (by omega), leadingOnes, if_neg (by omega), if_neg (by omega),
      if_neg (by omega), if_neg (by omega), if_pos (by omega)]
    rfl

theorem codePoint?_utf8EncodeChar (c : Char) : codePoint? (String.utf8EncodeChar c) = some c := by
  have hdecode : decode (String.utf8EncodeChar c) = [c] := by
    rw [← List.append_nil (String.utf8EncodeChar c), decode_utf8EncodeChar_append]
    rfl
  simp [codePoint?, hdecode]

/-- The bytes of a sequence that has begun. -/
theorem decodeRest_flatMap (octets bytes : List UInt8) (hne : bytes ≠ []) (s : JsString) :
    decodeRest octets bytes.length (bytes.flatMap percentEncode ++ s) =
      match codePoint? (octets ++ bytes) with
      | none => none
      | some c => (decodeRest [] 0 s).map (utf16Char c ++ ·) := by
  induction bytes generalizing octets with
  | nil => exact absurd rfl hne
  | cons b bytes ih =>
    rw [List.flatMap_cons, List.append_assoc, decodeRest_percentEncode]
    cases bytes with
    | nil => rfl
    | cons b' bytes =>
      -- the byte is not the last one
      have hrest := ih (octets ++ [b]) (List.cons_ne_nil _ _)
      rw [List.append_assoc, List.singleton_append] at hrest
      exact hrest

/-- A code unit other than the percent sign is read as it is. -/
theorem decodeRest_cons {u : UInt16} (h : u ≠ percent) (s : JsString) :
    decodeRest [] 0 (u :: s) = (decodeRest [] 0 s).map (u :: ·) := by
  conv => lhs; unfold decodeRest
  rw [if_pos h, if_pos rfl]

theorem decodeRest_append {t : JsString} (h : percent ∉ t) (s : JsString) :
    decodeRest [] 0 (t ++ s) = (decodeRest [] 0 s).map (t ++ ·) := by
  induction t with
  | nil => simp
  | cons u t ih =>
    rw [List.mem_cons, not_or] at h
    rw [List.cons_append, decodeRest_cons (Ne.symm h.1), ih h.2, Option.map_map]
    rfl

theorem percent_not_mem_of_all {t : JsString} (h : t.all isUnreserved = true) : percent ∉ t := by
  intro hmem
  have hunreserved := List.all_eq_true.mp h percent hmem
  revert hunreserved
  decide

/-- A code point that was written is read. -/
theorem decodeRest_encodeChar (c : Char) (s : JsString) :
    decodeRest [] 0 (encodeChar c ++ s) = (decodeRest [] 0 s).map (utf16Char c ++ ·) := by
  unfold encodeChar
  -- a character that stays as it is, or its bytes
  split
  · rename_i hall
    exact decodeRest_append (percent_not_mem_of_all hall) s
  · rcases utf8EncodeChar_cases c with ⟨hascii, hbytes⟩ | ⟨b, bytes, hbytes, hne, hlen, hones⟩
    · -- an ASCII character that is escaped is one byte
      have hbyte : (UInt8.ofNat c.val.toNat).toNat = c.val.toNat := Utf8.toNat_ofNat (by omega)
      have hunits : utf16Char c = [UInt16.ofNat c.val.toNat] := by
        rw [utf16Char, if_pos (by omega)]
      rw [hbytes, List.flatMap_singleton, decodeRest_percentEncode]
      simp only [hbyte, leadingOnes, if_pos hascii, if_true, hunits]
      rfl
    · -- the first byte says how many follow, and the last one completes the code point
      rw [hbytes, List.flatMap_cons, List.append_assoc, decodeRest_percentEncode]
      have hpos : 0 < bytes.length := List.length_pos_iff.mpr hne
      simp only [hones, if_neg (show ¬ bytes.length + 1 = 0 by omega),
        if_neg (show ¬ (bytes.length + 1 = 1 ∨ 4 < bytes.length + 1) by omega),
        Nat.add_sub_cancel, List.nil_append]
      rw [decodeRest_flatMap [b] bytes hne s, List.singleton_append, ← hbytes,
        codePoint?_utf8EncodeChar]

/-! ## Strings -/

/-- **What was encoded is decoded to itself.** -/
theorem decodeURIComponent_of_encode {s t : JsString} (h : encodeURIComponent s = some t) :
    decodeURIComponent t = some s := by
  unfold encodeURIComponent at h
  split at h
  · rename_i hformed
    cases h
    -- induction on the code points of the text
    have hall : ∀ cs : List Char, decodeRest [] 0 (cs.flatMap encodeChar) = some (utf16 cs) := by
      intro cs
      induction cs with
      | nil => rfl
      | cons c cs ih =>
        rw [List.flatMap_cons, decodeRest_encodeChar, ih]
        rfl
    rw [decodeURIComponent, hall]
    exact congrArg some hformed
  · cases h

theorem isUnreserved_hexDigit {n : Nat} (h : n < 16) : isUnreserved (hexDigit n) = true := by
  have hall : ∀ k : Fin 16, isUnreserved (hexDigit k) = true := by decide
  exact hall ⟨n, h⟩

/-- What was encoded has percent signs and unreserved code units only. -/
theorem mem_of_encode {s t : JsString} (h : encodeURIComponent s = some t) {u : UInt16}
    (hmem : u ∈ t) : u = percent ∨ isUnreserved u = true := by
  unfold encodeURIComponent at h
  split at h
  · cases h
    obtain ⟨c, -, hu⟩ := List.mem_flatMap.mp hmem
    unfold encodeChar at hu
    split at hu
    · rename_i hall
      exact .inr (List.all_eq_true.mp hall u hu)
    · -- a percent sign and two digits
      obtain ⟨b, -, hu⟩ := List.mem_flatMap.mp hu
      have hb : b.toNat < 256 := b.toNat_lt
      simp only [percentEncode, List.mem_cons, List.not_mem_nil, or_false] at hu
      rcases hu with rfl | rfl | rfl
      · exact .inl rfl
      · exact .inr (isUnreserved_hexDigit (by omega))
      · exact .inr (isUnreserved_hexDigit (by omega))
  · cases h

end JsString
