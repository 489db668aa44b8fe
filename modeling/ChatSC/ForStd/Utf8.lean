import Mathlib.Data.List.TakeWhile
import Mathlib.Algebra.GroupWithZero.Nat

/-!
# UTF-8 with replacement

Lists of code points as UTF-8, and the decoder that never fails: a byte that cannot go on starts a
new sequence, and what stood before it becomes one U+FFFD, as does a sequence that the end of the
input cuts off.

The decoder is a machine that reads one byte at a time.  `Spells` says that a list of bytes takes it
from a state to a code point, and carries both results: encoded text is decoded to itself
(`decode_encode`), and text cut after `n` bytes to the code points that fit, with a U+FFFD for the
one that is cut (`decode_take_encode`).
-/

namespace Utf8

/-- U+FFFD, REPLACEMENT CHARACTER -/
def replacement : Char := Char.ofNat 0xFFFD

/-- U+0000, NULL -/
def nul : Char := Char.ofNat 0

/-- The text in UTF-8. -/
def encode (cs : List Char) : List UInt8 := cs.flatMap String.utf8EncodeChar

/-- The number of bytes of the text in UTF-8. -/
def byteSize (cs : List Char) : Nat := (cs.map Char.utf8Size).sum

/-! ## The decoder -/

/-- A sequence that is not complete: how many bytes it still needs, the range of the next one, and
    the bits so far. -/
structure Pending where
  needed : Nat
  lower : Nat
  upper : Nat
  codePoint : Nat
deriving DecidableEq

/-- A byte between two sequences: the code points that are finished, and the state afterwards. -/
def start (b : Nat) : List Char × Option Pending :=
  if b < 0x80 then ([Char.ofNat b], none)
  else if 0xC2 ≤ b ∧ b ≤ 0xDF then ([], some ⟨1, 0x80, 0xBF, b - 0xC0⟩)
  else if 0xE0 ≤ b ∧ b ≤ 0xEF then
    -- no overlong forms, no surrogates
    ([], some ⟨2, if b = 0xE0 then 0xA0 else 0x80, if b = 0xED then 0x9F else 0xBF, b - 0xE0⟩)
  else if 0xF0 ≤ b ∧ b ≤ 0xF4 then
    -- no overlong forms, nothing above U+10FFFF
    ([], some ⟨3, if b = 0xF0 then 0x90 else 0x80, if b = 0xF4 then 0x8F else 0xBF, b - 0xF0⟩)
  else ([replacement], none)

/-- A byte in any state. -/
def step : Option Pending → Nat → List Char × Option Pending
  | none, b => start b
  | some p, b =>
    if p.lower ≤ b ∧ b ≤ p.upper then
      let codePoint := p.codePoint * 64 + (b - 0x80)
      if p.needed = 1 then ([Char.ofNat codePoint], none)
      else ([], some ⟨p.needed - 1, 0x80, 0xBF, codePoint⟩)
    else (replacement :: (start b).1, (start b).2)

/-- The code points of the rest of the input. -/
def decodeFrom : Option Pending → List UInt8 → List Char
  | none, [] => []
  | some _, [] => [replacement]
  | state, b :: bytes => (step state b.toNat).1 ++ decodeFrom (step state b.toNat).2 bytes

/-- The text that a decoder with replacement reads from any bytes. -/
def decode (bytes : List UInt8) : List Char := decodeFrom none bytes

example : decode [0x61, 0xE2, 0x82, 0x62, 0xC3, 0xA9, 0xFF, 0xED, 0xA0, 0x80] =
    ['a', replacement, 'b', Char.ofNat 0xE9] ++ List.replicate 4 replacement := by decide

/-! ## Sizes -/

@[simp] theorem encode_nil : encode [] = [] := rfl

@[simp] theorem encode_cons (c : Char) (cs : List Char) :
    encode (c :: cs) = String.utf8EncodeChar c ++ encode cs := rfl

@[simp] theorem byteSize_nil : byteSize [] = 0 := rfl

@[simp] theorem byteSize_cons (c : Char) (cs : List Char) :
    byteSize (c :: cs) = c.utf8Size + byteSize cs := rfl

theorem byteSize_append (a b : List Char) : byteSize (a ++ b) = byteSize a + byteSize b := by
  simp [byteSize]

theorem utf8Size_replacement : replacement.utf8Size = 3 := by decide

/-! ## One code point -/

/-- The bytes take the decoder from a state to the end of a code point and to nothing before. -/
inductive Spells : Option Pending → List UInt8 → Char → Prop where
  | last {state : Option Pending} {b : UInt8} {c : Char}
      (h : step state b.toNat = ([c], none)) : Spells state [b] c
  | next {state : Option Pending} {p : Pending} {b : UInt8} {bytes : List UInt8} {c : Char}
      (h : step state b.toNat = ([], some p)) (hrest : Spells (some p) bytes c) :
      Spells state (b :: bytes) c

/-- Bytes that spell a code point are decoded to it. -/
theorem Spells.decodeFrom_append {state : Option Pending} {bytes : List UInt8} {c : Char}
    (h : Spells state bytes c) (rest : List UInt8) :
    decodeFrom state (bytes ++ rest) = c :: decodeFrom none rest := by
  induction h with
  | last h => simp [decodeFrom, h]
  | next h _ ih => simp [decodeFrom, h, ih]

/-- Bytes that spell a code point and are cut are decoded to one U+FFFD. -/
theorem Spells.decodeFrom_take {state : Option Pending} {bytes : List UInt8} {c : Char}
    (h : Spells state bytes c) {n : Nat} (hn : n < bytes.length) (hpos : 0 < n ∨ state.isSome) :
    decodeFrom state (bytes.take n) = [replacement] := by
  -- induction on the bytes that spell it
  induction h generalizing n with
  -- there is nothing behind the last byte to cut, so the cut is before it
  | @last state b c h =>
    have hzero : n = 0 := by simpa using hn
    subst hzero
    cases state with
    | none => simp at hpos
    | some p => rfl
  | @next state p b bytes c h _ ih =>
    -- the cut is at once, or behind this byte
    cases n with
    | zero =>
      cases state with
      | none => simp at hpos
      | some p => rfl
    | succ n =>
      have hlt : n < bytes.length := by simpa using hn
      simp [decodeFrom, h, ih hlt (.inr rfl)]

theorem valid_toNat (c : Char) :
    c.val.toNat < 0xD800 ∨ 0xDFFF < c.val.toNat ∧ c.val.toNat < 0x110000 := c.valid

theorem toNat_ofNat {n : Nat} (h : n < 256) : (UInt8.ofNat n).toNat = n :=
  UInt8.toNat_ofNat_of_lt' h

theorem ofNat_toNat (c : Char) {n : Nat} (h : n = c.val.toNat) : Char.ofNat n = c := by
  subst h
  exact Char.ofNat_toNat c

/-- A byte below 128 is a code point. -/
theorem start_one {b : Nat} (hb : b < 0x80) : start b = ([Char.ofNat b], none) := by
  rw [start, if_pos hb]

/-- The first of two bytes. -/
theorem start_two {k : Nat} (hlo : 2 ≤ k) (hhi : k < 0x20) :
    start (k + 0xC0) = ([], some ⟨1, 0x80, 0xBF, k⟩) := by
  rw [start, if_neg (by omega), if_pos (by omega), Nat.add_sub_cancel]

/-- The first of three bytes. -/
theorem start_three {k : Nat} (hk : k < 0x10) :
    start (k + 0xE0) =
      ([], some ⟨2, if k = 0 then 0xA0 else 0x80, if k = 0xD then 0x9F else 0xBF, k⟩) := by
  rw [start, if_neg (by omega), if_neg (by omega), if_pos (by omega), Nat.add_sub_cancel]
  have hE0 : (k + 0xE0 = 0xE0) = (k = 0) := by rw [eq_iff_iff]; omega
  have hED : (k + 0xE0 = 0xED) = (k = 0xD) := by rw [eq_iff_iff]; omega
  simp only [hE0, hED]

/-- The first of four bytes. -/
theorem start_four {k : Nat} (hk : k ≤ 4) :
    start (k + 0xF0) =
      ([], some ⟨3, if k = 0 then 0x90 else 0x80, if k = 4 then 0x8F else 0xBF, k⟩) := by
  rw [start, if_neg (by omega), if_neg (by omega), if_neg (by omega), if_pos (by omega),
    Nat.add_sub_cancel]
  have hF0 : (k + 0xF0 = 0xF0) = (k = 0) := by rw [eq_iff_iff]; omega
  have hF4 : (k + 0xF0 = 0xF4) = (k = 4) := by rw [eq_iff_iff]; omega
  simp only [hF0, hF4]

/-- The last byte of a sequence. -/
theorem step_last {lower upper codePoint d : Nat} (hlo : lower ≤ d + 0x80) (hhi : d + 0x80 ≤ upper) :
    step (some ⟨1, lower, upper, codePoint⟩) (d + 0x80) =
      ([Char.ofNat (codePoint * 64 + d)], none) := by
  simp only [step, if_pos (And.intro hlo hhi), if_true, Nat.add_sub_cancel]

/-- A byte of a sequence that is not the last one. -/
theorem step_next {needed lower upper codePoint d : Nat} (hneeded : 1 < needed)
    (hlo : lower ≤ d + 0x80) (hhi : d + 0x80 ≤ upper) :
    step (some ⟨needed, lower, upper, codePoint⟩) (d + 0x80) =
      ([], some ⟨needed - 1, 0x80, 0xBF, codePoint * 64 + d⟩) := by
  simp only [step, if_pos (And.intro hlo hhi), if_neg (Nat.ne_of_gt hneeded), Nat.add_sub_cancel]

/-- The bytes of a code point spell it. -/
theorem spells_utf8EncodeChar (c : Char) : Spells none (String.utf8EncodeChar c) c := by
  have hvalid := valid_toNat c
  -- one case for each number of bytes; the bounds on the code point decide every test
  unfold String.utf8EncodeChar
  generalize hv : c.val.toNat = v at hvalid ⊢
  simp only
  split
  · -- one byte
    apply Spells.last
    rw [toNat_ofNat (by omega), step, start_one (by omega), ofNat_toNat c hv.symm]
  split
  · -- two bytes
    apply Spells.next
    · rw [toNat_ofNat (by omega), step, start_two (by omega) (by omega)]
    · apply Spells.last
      rw [toNat_ofNat (by omega), step_last (by omega) (by omega)]
      rw [ofNat_toNat c (by omega)]
  split
  · -- three bytes
    apply Spells.next
    · rw [toNat_ofNat (by omega), step, start_three (by omega)]
    · apply Spells.next
      · rw [toNat_ofNat (by omega)]
        apply step_next (by omega)
        · split <;> omega
        · split <;> omega
      · apply Spells.last
        rw [toNat_ofNat (by omega), step_last (by omega) (by omega)]
        rw [ofNat_toNat c (by omega)]
  · -- four bytes
    apply Spells.next
    · rw [toNat_ofNat (by omega), step, start_four (by omega)]
    · apply Spells.next
      · rw [toNat_ofNat (by omega)]
        apply step_next (by omega)
        · split <;> omega
        · split <;> omega
      · apply Spells.next
        · rw [toNat_ofNat (by omega)]
          exact step_next (by omega) (by omega) (by omega)
        · apply Spells.last
          rw [toNat_ofNat (by omega), step_last (by omega) (by omega)]
          rw [ofNat_toNat c (by omega)]

/-! ## Text -/

/-- A code point in front of anything is decoded to itself. -/
theorem decode_utf8EncodeChar_append (c : Char) (rest : List UInt8) :
    decode (String.utf8EncodeChar c ++ rest) = c :: decode rest :=
  (spells_utf8EncodeChar c).decodeFrom_append rest

/-- Encoded text is decoded to itself. -/
@[simp] theorem decode_encode (cs : List Char) : decode (encode cs) = cs := by
  induction cs with
  | nil => rfl
  | cons c cs ih => rw [encode_cons, decode_utf8EncodeChar_append, ih]

/-- The code points that fit in `n` bytes, and a U+FFFD for one of which a part fits. -/
def cut : Nat → List Char → List Char
  | _, [] => []
  | n, c :: cs =>
    if c.utf8Size ≤ n then c :: cut (n - c.utf8Size) cs
    else if n = 0 then []
    else [replacement]

/-- Text that is cut after `n` bytes and decoded. -/
theorem decode_take_encode (n : Nat) (cs : List Char) :
    decode ((encode cs).take n) = cut n cs := by
  induction cs generalizing n with
  | nil => simp [cut, decode, decodeFrom]
  | cons c cs ih =>
    have hsize : (String.utf8EncodeChar c).length = c.utf8Size := String.length_utf8EncodeChar c
    rw [encode_cons, cut]
    -- the whole code point fits, or the cut falls into its bytes
    split
    · rename_i hfits
      rw [List.take_append, List.take_of_length_le (by omega), hsize,
        decode_utf8EncodeChar_append, ih]
    · rename_i hcut
      rw [List.take_append_of_le_length (by omega)]
      -- a cut at zero leaves nothing to decode
      split
      · rename_i hzero
        subst hzero
        rfl
      · rename_i hzero
        exact (spells_utf8EncodeChar c).decodeFrom_take (by omega) (.inl (by omega))

/-- Cutting at the same place again changes nothing. -/
@[simp] theorem cut_cut (n : Nat) (cs : List Char) : cut n (cut n cs) = cut n cs := by
  induction cs generalizing n with
  | nil => rfl
  | cons c cs ih =>
    by_cases hfits : c.utf8Size ≤ n
    · simp only [cut, if_pos hfits, ih]
    · by_cases hzero : n = 0
      · simp only [cut, if_neg hfits, if_pos hzero]
      · simp only [cut, if_neg hfits, if_neg hzero, ite_self]

/-- A text that ends in U+FFFD has its three bytes. -/
theorem byteSize_of_getLast? {cs : List Char} (h : cs.getLast? = some replacement) :
    3 ≤ byteSize cs := by
  obtain ⟨front, hfront⟩ := List.getLast?_eq_some_iff.mp h
  rw [hfront, byteSize_append, byteSize_cons, utf8Size_replacement]
  omega

/-- Text survives being cut after `n` bytes exactly when it fits, or when its last code point is a
    U+FFFD of which the first byte or two fit. -/
theorem cut_eq_self_iff (n : Nat) (cs : List Char) :
    cut n cs = cs ↔
      byteSize cs ≤ n ∨ (byteSize cs ≤ n + 2 ∧ cs.getLast? = some replacement) := by
  induction cs generalizing n with
  | nil => simp [cut]
  | cons c cs ih =>
    rw [cut, byteSize_cons]
    by_cases hfits : c.utf8Size ≤ n
    · rw [if_pos hfits, List.cons.injEq, eq_self_iff_true, true_and, ih]
      have hle : byteSize cs ≤ n - c.utf8Size ↔ c.utf8Size + byteSize cs ≤ n := by omega
      have hle2 : byteSize cs ≤ n - c.utf8Size + 2 ↔ c.utf8Size + byteSize cs ≤ n + 2 := by omega
      cases cs with
      | nil => simp [hfits]
      | cons d cs => rw [hle, hle2, List.getLast?_cons_cons]
    · rw [if_neg hfits]
      have hlong : ¬ c.utf8Size + byteSize cs ≤ n := by omega
      rw [or_iff_right hlong]
      constructor
      · intro h
        split at h
        · cases h
        · rename_i hzero
          obtain ⟨rfl, rfl⟩ := List.cons.inj h
          rw [utf8Size_replacement, byteSize_nil]
          exact ⟨by omega, rfl⟩
      · rintro ⟨hsize, hlast⟩
        -- nothing follows the code point that is cut
        cases cs with
        | nil =>
          obtain rfl : c = replacement := by simpa using hlast
          rw [utf8Size_replacement] at hsize
          rw [if_neg (by omega)]
        | cons d cs =>
          rw [List.getLast?_cons_cons] at hlast
          have := byteSize_of_getLast? hlast
          omega

/-- Cutting makes no code point but U+FFFD. -/
theorem mem_cut {n : Nat} {cs : List Char} {c : Char} (h : c ∈ cut n cs) :
    c ∈ cs ∨ c = replacement := by
  induction cs generalizing n with
  | nil => exact absurd h List.not_mem_nil
  | cons d cs ih =>
    rw [cut] at h
    split at h
    · rcases List.mem_cons.mp h with rfl | hmem
      · exact .inl List.mem_cons_self
      · exact (ih hmem).imp_left (List.mem_cons_of_mem d)
    · split at h
      · exact absurd h List.not_mem_nil
      · exact .inr (List.mem_singleton.mp h)

/-! ## Bytes and code points below 128 -/

/-- A map of bytes that permutes nothing but ASCII: it keeps ASCII, and every other byte. -/
structure AsciiMap (f : UInt8 → UInt8) : Prop where
  ascii : ∀ b, b.toNat < 0x80 → (f b).toNat < 0x80
  other : ∀ b, 0x80 ≤ b.toNat → f b = b

/-- Two maps that keep the bytes outside ASCII, the second undoing the first. -/
theorem AsciiMap.of_inverse {f g : UInt8 → UInt8} (hf : ∀ b, 0x80 ≤ b.toNat → f b = b)
    (hg : ∀ b, 0x80 ≤ b.toNat → g b = b) (hgf : ∀ b, g (f b) = b) : AsciiMap f where
  ascii b hb := by
    by_contra hle
    -- outside ASCII the second map keeps the byte, and so did the first
    have hback : f b = b := (hg (f b) (Nat.not_lt.mp hle)).symm.trans (hgf b)
    rw [hback] at hle
    exact hle hb
  other := hf

/-- What a map of bytes does to code points. -/
def mapAscii (f : UInt8 → UInt8) (c : Char) : Char :=
  if c.val.toNat < 0x80 then Char.ofNat (f (UInt8.ofNat c.val.toNat)).toNat else c

/-- A code point below 128 is one byte. -/
theorem utf8EncodeChar_ascii {c : Char} (h : c.val.toNat < 0x80) :
    String.utf8EncodeChar c = [UInt8.ofNat c.val.toNat] := by
  unfold String.utf8EncodeChar
  rw [if_pos (by omega)]

/-- The bytes of other code points are 128 or more. -/
theorem utf8EncodeChar_other {c : Char} (h : 0x80 ≤ c.val.toNat) {b : UInt8}
    (hb : b ∈ String.utf8EncodeChar c) : 0x80 ≤ b.toNat := by
  have hvalid := valid_toNat c
  unfold String.utf8EncodeChar at hb
  -- every byte has its top bit set, whatever the number of bytes
  simp only at hb
  rw [if_neg (by omega)] at hb
  split at hb
  · simp only [List.mem_cons, List.not_mem_nil, or_false] at hb
    rcases hb with rfl | rfl <;> rw [toNat_ofNat (by omega)] <;> omega
  split at hb
  · simp only [List.mem_cons, List.not_mem_nil, or_false] at hb
    rcases hb with rfl | rfl | rfl <;> rw [toNat_ofNat (by omega)] <;> omega
  · simp only [List.mem_cons, List.not_mem_nil, or_false] at hb
    rcases hb with rfl | rfl | rfl | rfl <;> rw [toNat_ofNat (by omega)] <;> omega

/-- A map of ASCII leaves the bytes of other code points alone. -/
theorem map_utf8EncodeChar_other {f : UInt8 → UInt8} (hf : AsciiMap f) {c : Char}
    (h : 0x80 ≤ c.val.toNat) : (String.utf8EncodeChar c).map f = String.utf8EncodeChar c := by
  have hother : ∀ b ∈ String.utf8EncodeChar c, f b = b := fun b hb =>
    hf.other b (utf8EncodeChar_other h hb)
  rw [List.map_congr_left hother, List.map_id']

/-- The code point of a byte below 128. -/
theorem toNat_ofNat_ascii {n : Nat} (h : n < 0x80) : (Char.ofNat n).val.toNat = n := by
  have hvalid : n.isValidChar := .inl (by omega)
  rw [Char.ofNat, dif_pos hvalid]
  rfl

/-- The byte of a code point below 128. -/
theorem toNat_ofNat_lt {c : Char} (h : c.val.toNat < 0x80) :
    (UInt8.ofNat c.val.toNat).toNat < 0x80 := by
  rw [toNat_ofNat (by omega)]
  exact h

theorem mapAscii_toNat {f : UInt8 → UInt8} (hf : AsciiMap f) {c : Char} (h : c.val.toNat < 0x80) :
    (mapAscii f c).val.toNat = (f (UInt8.ofNat c.val.toNat)).toNat := by
  have hlt := toNat_ofNat_lt h
  rw [mapAscii, if_pos h, toNat_ofNat_ascii (hf.ascii _ hlt)]

/-- The bytes of a mapped code point are the mapped bytes. -/
theorem utf8EncodeChar_mapAscii {f : UInt8 → UInt8} (hf : AsciiMap f) (c : Char) :
    String.utf8EncodeChar (mapAscii f c) = (String.utf8EncodeChar c).map f := by
  by_cases h : c.val.toNat < 0x80
  · have hlt := toNat_ofNat_lt h
    have hmap := mapAscii_toNat hf h
    rw [utf8EncodeChar_ascii h, utf8EncodeChar_ascii (hmap ▸ hf.ascii _ hlt), hmap,
      UInt8.ofNat_toNat, List.map_singleton]
  · rw [mapAscii, if_neg h, map_utf8EncodeChar_other hf (by omega)]

/-- Mapped bytes are the bytes of mapped text. -/
theorem map_encode {f : UInt8 → UInt8} (hf : AsciiMap f) (cs : List Char) :
    (encode cs).map f = encode (cs.map (mapAscii f)) := by
  induction cs with
  | nil => rfl
  | cons c cs ih =>
    rw [encode_cons, List.map_append, ih, List.map_cons, encode_cons, utf8EncodeChar_mapAscii hf]

/-- A map of ASCII keeps the sizes. -/
theorem utf8Size_mapAscii {f : UInt8 → UInt8} (hf : AsciiMap f) (c : Char) :
    (mapAscii f c).utf8Size = c.utf8Size := by
  rw [← String.length_utf8EncodeChar, utf8EncodeChar_mapAscii hf, List.length_map,
    String.length_utf8EncodeChar]

theorem mapAscii_replacement (f : UInt8 → UInt8) : mapAscii f replacement = replacement := rfl

/-- Cutting commutes with a map of ASCII. -/
theorem cut_map {f : UInt8 → UInt8} (hf : AsciiMap f) (n : Nat) (cs : List Char) :
    cut n (cs.map (mapAscii f)) = (cut n cs).map (mapAscii f) := by
  induction cs generalizing n with
  | nil => rfl
  | cons c cs ih =>
    rw [List.map_cons, cut, cut, utf8Size_mapAscii hf, ih]
    split
    · rfl
    · split
      · rfl
      · rw [List.map_singleton, mapAscii_replacement]

/-- Maps of ASCII that undo each other on bytes do so on text. -/
theorem map_mapAscii_map_mapAscii {f g : UInt8 → UInt8} (hf : AsciiMap f)
    (hgf : ∀ b, g (f b) = b) (cs : List Char) :
    (cs.map (mapAscii f)).map (mapAscii g) = cs := by
  rw [List.map_map]
  refine List.map_id'' (fun c => ?_) cs
  by_cases h : c.val.toNat < 0x80
  · have hlt := toNat_ofNat_lt h
    have hmap := mapAscii_toNat hf h
    have hascii : (mapAscii f c).val.toNat < 0x80 := hmap ▸ hf.ascii _ hlt
    rw [Function.comp_apply, mapAscii, if_pos hascii, hmap, UInt8.ofNat_toNat, hgf]
    exact ofNat_toNat c (toNat_ofNat (by omega))
  · rw [Function.comp_apply, mapAscii.eq_1 f, if_neg h, mapAscii, if_neg h]

/-! ## Valid bytes -/

/-- Bytes that are the UTF-8 of a text. -/
def Valid (bytes : List UInt8) : Prop := ∃ cs, encode cs = bytes

/-- Valid bytes are those that the decoder reads without a replacement of its own. -/
theorem valid_iff {bytes : List UInt8} : Valid bytes ↔ encode (decode bytes) = bytes := by
  constructor
  · rintro ⟨cs, rfl⟩
    rw [decode_encode]
  · intro h
    exact ⟨decode bytes, h⟩

instance : DecidablePred Valid := fun _ => decidable_of_iff _ valid_iff.symm

/-- A map of ASCII keeps valid bytes valid. -/
theorem Valid.map {f : UInt8 → UInt8} (hf : AsciiMap f) {bytes : List UInt8} (h : Valid bytes) :
    Valid (bytes.map f) := by
  obtain ⟨cs, rfl⟩ := h
  exact ⟨cs.map (mapAscii f), (map_encode hf cs).symm⟩

/-- A map of ASCII that can be undone makes no bytes valid. -/
theorem valid_map_iff {f g : UInt8 → UInt8} (hf : AsciiMap f) (hg : AsciiMap g)
    (hgf : ∀ b, g (f b) = b) {bytes : List UInt8} : Valid (bytes.map f) ↔ Valid bytes := by
  constructor
  · intro h
    have hback : (bytes.map f).map g = bytes := by
      rw [List.map_map]
      exact List.map_id'' hgf bytes
    exact hback ▸ h.map hg
  · exact Valid.map hf

/-! ## NUL -/

/-- Only U+0000 has a NUL byte. -/
theorem zero_mem_utf8EncodeChar {c : Char} : 0 ∈ String.utf8EncodeChar c ↔ c = nul := by
  -- an ASCII character is its own byte, and the bytes of the others are not ASCII
  by_cases h : c.val.toNat < 0x80
  · rw [utf8EncodeChar_ascii h, List.mem_singleton]
    constructor
    · intro h0
      have hzero : 0 = c.val.toNat := by
        rw [← toNat_ofNat (show c.val.toNat < 256 by omega), ← h0]
        rfl
      exact (ofNat_toNat c hzero).symm
    · rintro rfl
      rfl
  · constructor
    · intro h0
      exact absurd (utf8EncodeChar_other (by omega) h0) (by decide)
    · rintro rfl
      exact absurd (show nul.val.toNat < 0x80 by decide) h

/-- The bytes before the first NUL are those of the code points before the first U+0000. -/
theorem takeWhile_encode (cs : List Char) :
    (encode cs).takeWhile (· ≠ 0) = encode (cs.takeWhile (· ≠ nul)) := by
  induction cs with
  | nil => rfl
  | cons c cs ih =>
    by_cases hc : c = nul
    · subst hc
      rfl
    · have hbytes : ∀ b ∈ String.utf8EncodeChar c, b ≠ 0 := fun b hb h0 =>
        hc (zero_mem_utf8EncodeChar.mp (h0 ▸ hb))
      rw [encode_cons, List.takeWhile_append_of_pos (by simpa using hbytes), ih,
        List.takeWhile_cons_of_pos (by simpa using hc), encode_cons]

/-- The first byte of a text is a NUL only when the text starts with U+0000 (or is empty). -/
theorem head?_encode_ne_zero_iff (cs : List Char) :
    (encode cs).head?.getD 0 ≠ 0 ↔ ∃ c, cs.head? = some c ∧ c ≠ nul := by
  cases cs with
  | nil => simp
  | cons c cs =>
    -- the text starts with the first byte of its first code point
    obtain ⟨b, bytes, hbytes⟩ :=
      List.exists_cons_of_ne_nil (String.utf8EncodeChar_ne_nil (c := c))
    have hfirst : b = 0 ↔ c = nul := by
      constructor
      · intro h
        apply zero_mem_utf8EncodeChar.mp
        rw [hbytes, h]
        exact List.mem_cons_self
      · intro h
        subst h
        exact (List.cons.inj hbytes).1.symm
    rw [encode_cons, hbytes, List.cons_append, List.head?_cons, List.head?_cons, Option.getD_some,
      ne_eq, hfirst]
    simp

end Utf8
