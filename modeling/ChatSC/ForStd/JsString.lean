import ChatSC.ForStd.Utf8

/-!
# JavaScript strings

A string is a list of UTF-16 code units, in which surrogates need not come in pairs.  `scalars` are
its code points as `toWellFormed` sees them, with U+FFFD for a surrogate that stands alone; `utf16`
is the way back.  `toUtf8` and `ofUtf8` are `Buffer.from(s, 'utf8')` and `buffer.toString('utf8')`.
-/

/-- A string. -/
abbrev JsString := List UInt16

namespace JsString

open Utf8

instance : LawfulBEq JsString := inferInstance

/-- A code unit from U+D800 to U+DBFF. -/
def isLeading (u : UInt16) : Bool := 0xD800 ≤ u && u ≤ 0xDBFF

/-- A code unit from U+DC00 to U+DFFF. -/
def isTrailing (u : UInt16) : Bool := 0xDC00 ≤ u && u ≤ 0xDFFF

/-- The code units of a code point. -/
def utf16Char (c : Char) : JsString :=
  if c.val.toNat < 0x10000 then [UInt16.ofNat c.val.toNat]
  else
    [UInt16.ofNat ((c.val.toNat - 0x10000) / 0x400 + 0xD800),
      UInt16.ofNat ((c.val.toNat - 0x10000) % 0x400 + 0xDC00)]

/-- The string of a list of code points. -/
def utf16 (cs : List Char) : JsString := cs.flatMap utf16Char

/-- The code point of a surrogate pair. -/
def pair (u v : UInt16) : Char :=
  Char.ofNat ((u.toNat - 0xD800) * 0x400 + (v.toNat - 0xDC00) + 0x10000)

/-- The code point of a code unit that is in no pair. -/
def unpaired (u : UInt16) : Char :=
  if isLeading u || isTrailing u then replacement else Char.ofNat u.toNat

/-- The code points of a string, with U+FFFD for surrogates that stand alone. -/
def scalars : JsString → List Char
  | [] => []
  | [u] => [unpaired u]
  | u :: v :: s =>
    if isLeading u && isTrailing v then pair u v :: scalars s else unpaired u :: scalars (v :: s)

/-- `s.toWellFormed()` -/
def toWellFormed (s : JsString) : JsString := utf16 (scalars s)

/-- `Buffer.from(s, 'utf8')` -/
def toUtf8 (s : JsString) : List UInt8 := encode (scalars s)

/-- `Buffer.byteLength(s, 'utf8')` -/
def byteLength (s : JsString) : Nat := byteSize (scalars s)

/-- `buffer.toString('utf8')` -/
def ofUtf8 (bytes : List UInt8) : JsString := utf16 (decode bytes)

/-- A string literal. -/
def js (s : String) : JsString := utf16 s.toList

/-- `WhiteSpace` and `LineTerminator`, the code units that `trim` removes. -/
def isTrimmed (u : UInt16) : Bool :=
  (0x09 ≤ u && u ≤ 0x0D) || u = 0x20 || u = 0xA0 || u = 0x1680 || (0x2000 ≤ u && u ≤ 0x200A) ||
    u = 0x2028 || u = 0x2029 || u = 0x202F || u = 0x205F || u = 0x3000 || u = 0xFEFF

/-- `s.trim()` -/
def trim (s : JsString) : JsString :=
  ((s.dropWhile isTrimmed).reverse.dropWhile isTrimmed).reverse

example : trim (js "  hi\t there \n") = js "hi\t there" := by decide

example : toUtf8 [0xD83D, 0xDE00, 0xD83D] = [0xF0, 0x9F, 0x98, 0x80, 0xEF, 0xBF, 0xBD] := by decide

/-! ## Code points and code units -/

theorem toNat_ofNat {n : Nat} (h : n < 65536) : (UInt16.ofNat n).toNat = n :=
  UInt16.toNat_ofNat_of_lt' h

theorem isLeading_iff (u : UInt16) : isLeading u = true ↔ 0xD800 ≤ u.toNat ∧ u.toNat ≤ 0xDBFF := by
  simp [isLeading, UInt16.le_iff_toNat_le]

theorem isTrailing_iff (u : UInt16) :
    isTrailing u = true ↔ 0xDC00 ≤ u.toNat ∧ u.toNat ≤ 0xDFFF := by
  simp [isTrailing, UInt16.le_iff_toNat_le]

/-- A code unit that is no surrogate is a code point, whatever follows. -/
theorem scalars_cons {u : UInt16} (hlead : isLeading u = false) (htrail : isTrailing u = false)
    (s : JsString) : scalars (u :: s) = Char.ofNat u.toNat :: scalars s := by
  have hunit : unpaired u = Char.ofNat u.toNat := by simp [unpaired, hlead, htrail]
  cases s with
  | nil => simp only [scalars, hunit]
  | cons v s => simp [scalars, hlead, hunit]

/-- The code units of a code point are read as that code point. -/
theorem scalars_utf16Char_append (c : Char) (s : JsString) :
    scalars (utf16Char c ++ s) = c :: scalars s := by
  have hvalid := valid_toNat c
  unfold utf16Char
  split
  · rename_i hbmp
    have hunit := toNat_ofNat hbmp
    have hlead : isLeading (UInt16.ofNat c.val.toNat) = false := by
      rw [← Bool.not_eq_true, isLeading_iff]
      omega
    have htrail : isTrailing (UInt16.ofNat c.val.toNat) = false := by
      rw [← Bool.not_eq_true, isTrailing_iff]
      omega
    rw [List.singleton_append, scalars_cons hlead htrail, ofNat_toNat c hunit]
  · rename_i hastral
    have hhigh := toNat_ofNat (n := (c.val.toNat - 0x10000) / 0x400 + 0xD800) (by omega)
    have hlow := toNat_ofNat (n := (c.val.toNat - 0x10000) % 0x400 + 0xDC00) (by omega)
    generalize UInt16.ofNat ((c.val.toNat - 0x10000) / 0x400 + 0xD800) = u at hhigh
    generalize UInt16.ofNat ((c.val.toNat - 0x10000) % 0x400 + 0xDC00) = v at hlow
    have hlead : isLeading u = true := (isLeading_iff u).mpr (by omega)
    have htrail : isTrailing v = true := (isTrailing_iff v).mpr (by omega)
    have hpair : pair u v = c := ofNat_toNat c (by omega)
    rw [List.cons_append, List.singleton_append, scalars, hlead, htrail, Bool.and_true, if_pos rfl,
      hpair]

/-- The code points of the string of some code points. -/
@[simp] theorem scalars_utf16 (cs : List Char) : scalars (utf16 cs) = cs := by
  induction cs with
  | nil => rfl
  | cons c cs ih =>
    rw [utf16, List.flatMap_cons, scalars_utf16Char_append]
    exact congrArg (c :: ·) ih

/-- Different literals are different strings. -/
theorem js_injective : Function.Injective js := by
  intro s t h
  have hscalars := congrArg scalars h
  rw [js, js, scalars_utf16, scalars_utf16] at hscalars
  exact String.toList_injective hscalars

/-- A string made of code points is the string of its code points. -/
@[simp] theorem toWellFormed_utf16 (cs : List Char) : toWellFormed (utf16 cs) = utf16 cs := by
  rw [toWellFormed, scalars_utf16]

/-- The string of some code points is a given string exactly when that string is well formed and
    has these code points. -/
theorem utf16_eq_iff {cs : List Char} {s : JsString} :
    utf16 cs = s ↔ toWellFormed s = s ∧ cs = scalars s := by
  constructor
  · rintro rfl
    simp
  · rintro ⟨hwell, rfl⟩
    exact hwell

/-- Bytes of ASCII are the bytes of the string that is read from them. -/
theorem toUtf8_ofUtf8 {bytes : List UInt8} (h : ∀ b ∈ bytes, b.toNat < 0x80) :
    toUtf8 (ofUtf8 bytes) = bytes := by
  have hencode : encode (bytes.map fun b => Char.ofNat b.toNat) = bytes := by
    induction bytes with
    | nil => rfl
    | cons b bytes ih =>
      have hb := toNat_ofNat_ascii (h b List.mem_cons_self)
      have hchar : String.utf8EncodeChar (Char.ofNat b.toNat) = [b] := by
        rw [utf8EncodeChar_ascii (by rw [hb]; exact h b List.mem_cons_self), hb, UInt8.ofNat_toNat]
      rw [List.map_cons, encode_cons, hchar, ih fun c hc => h c (List.mem_cons_of_mem b hc)]
      rfl
  rw [toUtf8, ofUtf8, scalars_utf16, ← hencode, decode_encode]

/-- A string that is not empty has a first code point. -/
theorem exists_head?_scalars {s : JsString} (h : s ≠ []) : ∃ c, (scalars s).head? = some c := by
  fun_cases scalars s <;> simp_all

/-- A string that is not empty has bytes. -/
theorem toUtf8_ne_nil {s : JsString} (h : s ≠ []) : toUtf8 s ≠ [] := by
  obtain ⟨c, hc⟩ := exists_head?_scalars h
  obtain ⟨cs, hcs⟩ := List.head?_eq_some_iff.mp hc
  rw [toUtf8, hcs, encode_cons]
  intro hnil
  have hlen := congrArg List.length (List.append_eq_nil_iff.mp hnil).1
  rw [String.length_utf8EncodeChar] at hlen
  exact absurd hlen (Nat.ne_of_gt (Char.utf8Size_pos c))

end JsString
