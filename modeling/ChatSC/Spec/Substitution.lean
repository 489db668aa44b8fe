import ChatSC.ForStd.Utf8
import ChatSC.Native.Substitution

/-!
# The substitution tables and loops

The two tables are permutations of the letters and digits that undo each other, and they fix every
other byte, in particular NUL and all bytes above 127.  The loops act on the C string at the input
byte by byte, as far as the buffer goes.

`WritesString` says what a call does to the memory at its output, and `substitutions_inverse` that
both loops do it and undo each other.  A buffer can cut a sequence of several bytes
(`substitutions_cut`), so the string written is UTF-8 exactly when the bytes that fit are.
-/

namespace ChatSC.Spec

open Native Utf8

/-- A property of bytes that holds of all 256 values. -/
theorem forall_byte {p : UInt8 → Prop} (h : ∀ n < 256, p (UInt8.ofNat n)) (b : UInt8) : p b := by
  have hb := h b.toNat b.toNat_lt
  rwa [UInt8.ofNat_toNat] at hb

/-! ## The tables -/

/-- An ASCII letter or digit. -/
def IsLetterOrDigit (b : UInt8) : Prop := 97 ≤ b ∧ b ≤ 122 ∨ 65 ≤ b ∧ b ≤ 90 ∨ 48 ≤ b ∧ b ≤ 57

instance : DecidablePred IsLetterOrDigit := fun b =>
  inferInstanceAs (Decidable (97 ≤ b ∧ b ≤ 122 ∨ 65 ≤ b ∧ b ≤ 90 ∨ 48 ≤ b ∧ b ≤ 57))

/-- Letters and digits are ASCII. -/
theorem not_isLetterOrDigit {b : UInt8} (h : 0x80 ≤ b.toNat) : ¬ IsLetterOrDigit b := by
  simp only [IsLetterOrDigit, UInt8.le_iff_toNat_le, UInt8.reduceToNat]
  omega

/-- The forward table has letters and digits only. -/
theorem mapForward_of_not {b : UInt8} : ¬ IsLetterOrDigit b → mapForward b = b :=
  forall_byte (p := fun b => ¬ IsLetterOrDigit b → mapForward b = b) (by decide +kernel) b

/-- The reverse table has letters and digits only. -/
theorem mapReverse_of_not {b : UInt8} : ¬ IsLetterOrDigit b → mapReverse b = b :=
  forall_byte (p := fun b => ¬ IsLetterOrDigit b → mapReverse b = b) (by decide +kernel) b

/-- The reverse table undoes the forward table. -/
@[simp] theorem mapReverse_mapForward (b : UInt8) : mapReverse (mapForward b) = b :=
  forall_byte (p := fun b => mapReverse (mapForward b) = b) (by decide +kernel) b

/-- The forward table undoes the reverse table. -/
@[simp] theorem mapForward_mapReverse (b : UInt8) : mapForward (mapReverse b) = b :=
  forall_byte (p := fun b => mapForward (mapReverse b) = b) (by decide +kernel) b

/-- The forward table makes and loses no NUL. -/
theorem mapForward_eq_zero (b : UInt8) : mapForward b = 0 ↔ b = 0 :=
  (Function.LeftInverse.injective mapReverse_mapForward).eq_iff' (mapForward_of_not (by decide))

/-- The reverse table makes and loses no NUL. -/
theorem mapReverse_eq_zero (b : UInt8) : mapReverse b = 0 ↔ b = 0 :=
  (Function.LeftInverse.injective mapForward_mapReverse).eq_iff' (mapReverse_of_not (by decide))

/-- The forward table maps ASCII, and no other byte. -/
theorem asciiMap_mapForward : AsciiMap mapForward :=
  .of_inverse (fun _ h => mapForward_of_not (not_isLetterOrDigit h))
    (fun _ h => mapReverse_of_not (not_isLetterOrDigit h)) mapReverse_mapForward

/-- The reverse table maps ASCII, and no other byte. -/
theorem asciiMap_mapReverse : AsciiMap mapReverse :=
  .of_inverse (fun _ h => mapReverse_of_not (not_isLetterOrDigit h))
    (fun _ h => mapForward_of_not (not_isLetterOrDigit h)) mapForward_mapReverse

/-- Decrypting what was encrypted. -/
@[simp] theorem map_mapReverse_map_mapForward (s : List UInt8) :
    (s.map mapForward).map mapReverse = s := by
  rw [List.map_map, show mapReverse ∘ mapForward = id from funext mapReverse_mapForward, List.map_id]

/-! ## The loops -/

/-- What the loop leaves: the transformed string as far as it fits, a NUL, and the buffer behind it
    as it was. -/
theorem transformLoop_eq (f : UInt8 → UInt8) {size : Nat} (hsize : 0 < size)
    (input output : List UInt8) :
    transformLoop f size input output =
      ((cstr input).take (size - 1)).map f ++
        0 :: output.drop (((cstr input).take (size - 1)).length + 1) := by
  induction size generalizing input output with
  | zero => omega
  | succ size ih =>
    cases input with
    | nil => simp [transformLoop]
    | cons b input =>
      unfold transformLoop
      by_cases hb : b = 0
      · subst hb
        simp
      · cases size with
        -- the last byte of the buffer is for the NUL
        | zero => simp
        | succ size =>
          rw [if_pos ⟨hb, Nat.succ_pos size⟩, ih (Nat.succ_pos size), CString.cstr_cons_of_ne hb]
          simp only [Nat.add_sub_cancel, List.take_succ_cons, List.map_cons, List.cons_append,
            List.length_cons, List.drop_tail]

/-- The loop stores a NUL. -/
theorem zero_mem_transformLoop (f : UInt8 → UInt8) {size : Nat} (hsize : 0 < size)
    (input output : List UInt8) : 0 ∈ transformLoop f size input output := by
  rw [transformLoop_eq f hsize]
  exact List.mem_append_right _ List.mem_cons_self

/-- The string that the loop leaves. -/
theorem cstr_transformLoop {f : UInt8 → UInt8} (hf : ∀ b, f b = 0 ↔ b = 0) {size : Nat}
    (hsize : 0 < size) (input output : List UInt8) :
    cstr (transformLoop f size input output) = ((cstr input).take (size - 1)).map f := by
  rw [transformLoop_eq f hsize]
  apply CString.cstr_append_zero
  intro h0
  obtain ⟨b, hb, hfb⟩ := List.mem_map.mp h0
  have hzero : b = 0 := (hf b).mp hfb
  exact CString.zero_notMem_cstr input (hzero ▸ List.mem_of_mem_take hb)

/-- `written` is the memory at `output` after a call that was given the string `s` and a buffer of
    `size` bytes. -/
structure WritesString (s output written : List UInt8) (size : Nat) : Prop where
  length_eq : written.length = output.length
  terminated : 0 ∈ written.take size
  length_cstr : (cstr written).length = min s.length (size - 1)
  /-- Nothing is touched behind the buffer. -/
  beyond : written.drop size = output.drop size
  inPlace : ∀ i < min s.length (size - 1), ∀ b, s[i]? = some b → ¬ IsLetterOrDigit b →
    written[i]? = some b
  /-- A sequence of several bytes stays where it is. -/
  sequence : ∀ front c back, s = front ++ String.utf8EncodeChar c ++ back → 0x80 ≤ c.val.toNat →
    front.length + c.utf8Size < size →
      (written.drop front.length).take c.utf8Size = String.utf8EncodeChar c
  valid_iff : Valid (cstr written) ↔ Valid (s.take (size - 1))

section Writes

variable {f g : UInt8 → UInt8} {s : List UInt8} {size : Nat}

/-- What the loop leaves where the input is `s` and its NUL. -/
theorem transformLoop_terminated (f : UInt8 → UInt8) (hs : 0 ∉ s) (hsize : 1 ≤ size)
    (behind output : List UInt8) :
    transformLoop f size (s ++ 0 :: behind) output =
      (s.take (size - 1)).map f ++ 0 :: output.drop ((s.take (size - 1)).length + 1) := by
  rw [transformLoop_eq f hsize, CString.cstr_append_zero hs]

/-- The string that the loop leaves there. -/
theorem cstr_transformLoop_terminated (hzero : ∀ b, f b = 0 ↔ b = 0) (hs : 0 ∉ s)
    (hsize : 1 ≤ size) (behind output : List UInt8) :
    cstr (transformLoop f size (s ++ 0 :: behind) output) = (s.take (size - 1)).map f := by
  rw [cstr_transformLoop hzero hsize, CString.cstr_append_zero hs]

/-- The NUL is inside the buffer. -/
theorem zero_mem_take_transformLoop (f : UInt8 → UInt8) (hs : 0 ∉ s) (hsize : 1 ≤ size)
    (behind output : List UInt8) :
    0 ∈ (transformLoop f size (s ++ 0 :: behind) output).take size := by
  have hlt : ((s.take (size - 1)).map f).length < size := by
    rw [List.length_map, List.length_take]
    omega
  obtain ⟨k, hk⟩ := Nat.exists_eq_add_of_lt hlt
  rw [transformLoop_terminated f hs hsize, List.take_append]
  apply List.mem_append_right
  rw [show size - ((s.take (size - 1)).map f).length = k + 1 by omega, List.take_succ_cons]
  exact List.mem_cons_self

/-- The loop does not touch what is behind its buffer. -/
theorem drop_transformLoop (f : UInt8 → UInt8) (hs : 0 ∉ s) (hsize : 1 ≤ size)
    (behind output : List UInt8) :
    (transformLoop f size (s ++ 0 :: behind) output).drop size = output.drop size := by
  have hlen : ((s.take (size - 1)).map f).length = (s.take (size - 1)).length := List.length_map f
  have hle : (s.take (size - 1)).length ≤ size - 1 := List.length_take_le _ _
  -- the string and its NUL lie inside the buffer, and what follows them is the old memory
  rw [transformLoop_terminated f hs hsize, List.drop_append, List.drop_eq_nil_of_le (by omega),
    List.nil_append, hlen]
  obtain ⟨k, hk⟩ : ∃ k, size - (s.take (size - 1)).length = k + 1 :=
    Nat.exists_eq_succ_of_ne_zero (by omega)
  rw [hk, List.drop_succ_cons, List.drop_drop]
  congr 1
  omega

/-- A byte that the table fixes stays in place. -/
theorem getElem?_transformLoop (hs : 0 ∉ s) (hsize : 1 ≤ size) (behind output : List UInt8)
    {i : Nat} (hi : i < min s.length (size - 1)) {b : UInt8} (hb : s[i]? = some b)
    (hfix : f b = b) : (transformLoop f size (s ++ 0 :: behind) output)[i]? = some b := by
  have hlt : i < ((s.take (size - 1)).map f).length := by
    rw [List.length_map, List.length_take]
    omega
  rw [transformLoop_terminated f hs hsize, List.getElem?_append_left hlt, List.getElem?_map,
    List.getElem?_take_of_lt (by omega), hb, Option.map_some, hfix]

/-- So does a sequence of several bytes. -/
theorem take_drop_transformLoop (hf : AsciiMap f) {front back : List UInt8} {c : Char}
    (hs : 0 ∉ front ++ String.utf8EncodeChar c ++ back) (hc : 0x80 ≤ c.val.toNat)
    (hfits : front.length + c.utf8Size < size) (behind output : List UInt8) :
    ((transformLoop f size (front ++ String.utf8EncodeChar c ++ back ++ 0 :: behind) output).drop
      front.length).take c.utf8Size = String.utf8EncodeChar c := by
  have hlen : (String.utf8EncodeChar c).length = c.utf8Size := String.length_utf8EncodeChar c
  have hfront : front.take (size - 1) = front := List.take_of_length_le (by omega)
  have hchar : (String.utf8EncodeChar c).take (size - 1 - front.length) = String.utf8EncodeChar c :=
    List.take_of_length_le (by omega)
  -- neither the bytes before the sequence nor its own are cut
  rw [transformLoop_terminated f hs (by omega), List.append_assoc, List.take_append, hfront,
    List.take_append, hchar]
  simp only [List.map_append, List.append_assoc, map_utf8EncodeChar_other hf hc]
  rw [List.drop_left' (List.length_map f), List.take_left' hlen]

/-- A call with a table that maps ASCII, keeps NUL, changes letters and digits only, and has an
    inverse of its kind. -/
theorem writesString_transformLoop (hf : AsciiMap f) (hg : AsciiMap g) (hgf : ∀ b, g (f b) = b)
    (hzero : ∀ b, f b = 0 ↔ b = 0) (hfix : ∀ b, ¬ IsLetterOrDigit b → f b = b)
    (hs : 0 ∉ s) (hsize : 1 ≤ size) (behind : List UInt8) {output : List UInt8}
    (hout : size ≤ output.length) :
    WritesString s output (transformLoop f size (s ++ 0 :: behind) output) size where
  length_eq := length_transformLoop f hout _
  terminated := zero_mem_take_transformLoop f hs hsize behind output
  length_cstr := by
    rw [cstr_transformLoop_terminated hzero hs hsize, List.length_map, List.length_take,
      Nat.min_comm]
  beyond := drop_transformLoop f hs hsize behind output
  inPlace i hi b hb hnot := getElem?_transformLoop hs hsize behind output hi hb (hfix b hnot)
  sequence front c back hsplit hc hfits := by
    subst hsplit
    exact take_drop_transformLoop hf hs hc hfits behind output
  valid_iff := by
    rw [cstr_transformLoop_terminated hzero hs hsize]
    exact valid_map_iff hf hg hgf

/-- A second call with the inverse table undoes the first when the string fits. -/
theorem cstr_transformLoop_transformLoop (hgf : ∀ b, g (f b) = b) (hf : ∀ b, f b = 0 ↔ b = 0)
    (hg : ∀ b, g b = 0 ↔ b = 0) (hs : 0 ∉ s) (hfits : s.length < size)
    (behind output output' : List UInt8) :
    cstr (transformLoop g size (transformLoop f size (s ++ 0 :: behind) output) output') = s := by
  have htake : s.take (size - 1) = s := List.take_of_length_le (by omega)
  have hpos : 1 ≤ size := by omega
  rw [cstr_transformLoop hg hpos, cstr_transformLoop_terminated hf hs hpos, htake,
    List.take_of_length_le (by rw [List.length_map]; omega), List.map_map]
  exact List.map_id'' hgf s

end Writes

/-- The two loops write strings into their buffer, and undo each other on a string that fits. -/
theorem substitutions_inverse {s : List UInt8} (hs : 0 ∉ s) (behind : List UInt8) {size : Nat}
    (hsize : 1 ≤ size) {output : List UInt8} (hout : size ≤ output.length)
    (output' : List UInt8) :
    WritesString s output (substitutionTransform (s ++ 0 :: behind) output size) size ∧
      WritesString s output (substitutionReverseTransform (s ++ 0 :: behind) output size) size ∧
        (s.length < size →
          cstr (substitutionReverseTransform
            (substitutionTransform (s ++ 0 :: behind) output size) output' size) = s ∧
          cstr (substitutionTransform
            (substitutionReverseTransform (s ++ 0 :: behind) output size) output' size) = s ∧
          (Valid s →
            Valid (cstr (substitutionTransform (s ++ 0 :: behind) output size)) ∧
              Valid (cstr (substitutionReverseTransform (s ++ 0 :: behind) output size)))) := by
  have hforward :
      WritesString s output (substitutionTransform (s ++ 0 :: behind) output size) size :=
    writesString_transformLoop asciiMap_mapForward asciiMap_mapReverse mapReverse_mapForward
      mapForward_eq_zero (fun _ => mapForward_of_not) hs hsize behind hout
  have hreverse :
      WritesString s output (substitutionReverseTransform (s ++ 0 :: behind) output size) size :=
    writesString_transformLoop asciiMap_mapReverse asciiMap_mapForward mapForward_mapReverse
      mapReverse_eq_zero (fun _ => mapReverse_of_not) hs hsize behind hout
  refine ⟨hforward, hreverse, fun hfits => ⟨?_, ?_, fun hvalid => ?_⟩⟩
  · exact cstr_transformLoop_transformLoop mapReverse_mapForward mapForward_eq_zero
      mapReverse_eq_zero hs hfits behind output output'
  · exact cstr_transformLoop_transformLoop mapForward_mapReverse mapReverse_eq_zero
      mapForward_eq_zero hs hfits behind output output'
  · have htake : s.take (size - 1) = s := List.take_of_length_le (by omega)
    rw [← htake] at hvalid
    exact ⟨hforward.valid_iff.mpr hvalid, hreverse.valid_iff.mpr hvalid⟩

/-- The two loops on a letter and a sequence of two bytes, in buffers of eight bytes. -/
theorem substitutions_inverse_eight :
    WritesString [0x48, 0xC3, 0xA9] (List.replicate 9 1)
        (substitutionTransform [0x48, 0xC3, 0xA9, 0] (List.replicate 9 1) 8) 8 ∧
      cstr (substitutionReverseTransform
        (substitutionTransform [0x48, 0xC3, 0xA9, 0] (List.replicate 9 1) 8)
          (List.replicate 8 2) 8) = [0x48, 0xC3, 0xA9] := by
  have h := @substitutions_inverse [0x48, 0xC3, 0xA9] (by decide) [] 8 (by decide)
    (List.replicate 9 1) (by decide) (List.replicate 8 2)
  exact ⟨h.1, (h.2.2 (by decide)).1⟩

/-- A buffer of two bytes cuts a sequence of two bytes: what is written is no UTF-8. -/
theorem substitutions_cut :
    Valid [0xC3, 0xA9] ∧
      ¬ Valid (cstr (substitutionTransform [0xC3, 0xA9, 0] [1, 1] 2)) ∧
        ¬ Valid (cstr (substitutionReverseTransform [0xC3, 0xA9, 0] [1, 1] 2)) := by
  decide

end ChatSC.Spec
