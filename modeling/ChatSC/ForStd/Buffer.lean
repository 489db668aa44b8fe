import ChatSC.ForStd.CString

/-!
# Byte buffers with fields at fixed offsets

Little-endian 32-bit words, slices and overwriting of a byte buffer, for data that one side lays
out as a C struct and the other side as writes into a buffer.
-/

namespace Buffer

/-- The four bytes of a 32-bit word, lowest byte first. -/
def le32 (w : UInt32) : List UInt8 :=
  [UInt8.ofNat w.toNat, UInt8.ofNat (w.toNat / 2 ^ 8), UInt8.ofNat (w.toNat / 2 ^ 16),
    UInt8.ofNat (w.toNat / 2 ^ 24)]

/-- The 32-bit word in the first four bytes, lowest byte first. -/
def readLe32 (bytes : List UInt8) : UInt32 :=
  UInt32.ofNat ((bytes.getD 0 0).toNat + (bytes.getD 1 0).toNat * 2 ^ 8 +
    (bytes.getD 2 0).toNat * 2 ^ 16 + (bytes.getD 3 0).toNat * 2 ^ 24)

/-- The `n` bytes from an offset on. -/
def slice (bytes : List UInt8) (offset n : Nat) : List UInt8 := (bytes.drop offset).take n

/-- Overwrite the bytes from an offset on. -/
def writeAt (buffer : List UInt8) (offset : Nat) (bytes : List UInt8) : List UInt8 :=
  buffer.take offset ++ bytes ++ buffer.drop (offset + bytes.length)

@[simp] theorem length_le32 (w : UInt32) : (le32 w).length = 4 := by simp [le32]

/-- A word is read back from its four bytes. -/
@[simp] theorem readLe32_le32_append (w : UInt32) (rest : List UInt8) :
    readLe32 (le32 w ++ rest) = w := by
  have hw : w.toNat < 2 ^ 32 := w.toNat_lt
  apply UInt32.toNat_inj.mp
  simp only [readLe32, le32, List.cons_append, List.nil_append, List.getD_cons_zero,
    List.getD_cons_succ, UInt32.toNat_ofNat', UInt8.toNat_ofNat']
  omega

@[simp] theorem readLe32_le32 (w : UInt32) : readLe32 (le32 w) = w := by
  simpa only [List.append_nil] using readLe32_le32_append w []

theorem slice_length {bytes : List UInt8} {offset n : Nat} (h : offset + n ≤ bytes.length) :
    (slice bytes offset n).length = n := by
  simp only [slice, List.length_take, List.length_drop]
  omega

/-- A slice at the front. -/
theorem slice_append_left {a : List UInt8} {n : Nat} (ha : a.length = n) (rest : List UInt8) :
    slice (a ++ rest) 0 n = a := by
  subst ha
  simp [slice]

/-- A slice behind the first part. -/
theorem slice_append_of_le {a : List UInt8} {offset : Nat} (h : a.length ≤ offset)
    (rest : List UInt8) (n : Nat) :
    slice (a ++ rest) offset n = slice rest (offset - a.length) n := by
  rw [slice, slice, List.drop_append, List.drop_of_length_le h, List.nil_append]

/-- A slice that is everything. -/
theorem slice_all {a : List UInt8} {n : Nat} (ha : a.length = n) : slice a 0 n = a := by
  subst ha
  simp [slice]

/-- A write behind the first part. -/
theorem writeAt_append_of_le {a : List UInt8} {offset : Nat} (h : a.length ≤ offset)
    (rest bytes : List UInt8) :
    writeAt (a ++ rest) offset bytes = a ++ writeAt rest (offset - a.length) bytes := by
  have hend : a.length ≤ offset + bytes.length := by omega
  simp only [writeAt, List.take_append, List.take_of_length_le h, List.drop_append,
    List.drop_of_length_le hend, List.nil_append, List.append_assoc]
  rw [Nat.sub_add_comm h]

/-- A write that covers the first part. -/
theorem writeAt_append_left {a bytes : List UInt8} (h : a.length = bytes.length)
    (rest : List UInt8) : writeAt (a ++ rest) 0 bytes = bytes ++ rest := by
  simp [writeAt, ← h]

/-- A write that stays inside the buffer keeps its size. -/
theorem length_writeAt {buffer bytes : List UInt8} {offset : Nat}
    (h : offset + bytes.length ≤ buffer.length) :
    (writeAt buffer offset bytes).length = buffer.length := by
  simp only [writeAt, List.length_append, List.length_take, List.length_drop]
  omega

/-- A write leaves the bytes before and behind it alone. -/
theorem getElem?_writeAt {buffer bytes : List UInt8} {offset i : Nat} (h : offset ≤ buffer.length)
    (hi : i < offset ∨ offset + bytes.length ≤ i) :
    (writeAt buffer offset bytes)[i]? = buffer[i]? := by
  have htake : (buffer.take offset).length = offset := List.length_take_of_le h
  rcases hi with hbefore | hbehind
  · rw [writeAt, List.append_assoc, List.getElem?_append_left (by omega),
      List.getElem?_take_of_lt hbefore]
  · have hpre : (buffer.take offset ++ bytes).length = offset + bytes.length := by
      rw [List.length_append, htake]
    rw [writeAt, List.getElem?_append_right (by omega), hpre, List.getElem?_drop,
      Nat.add_sub_cancel' hbehind]

/-! ## Blocks of one size -/

section Blocks

variable {α : Type*} {f : α → List UInt8} {n : Nat}

/-- The length of a sequence of blocks. -/
theorem length_flatMap (hf : ∀ a, (f a).length = n) {xs : List α} :
    (xs.flatMap f).length = xs.length * n := by
  induction xs with
  | nil => simp
  | cons x xs ih =>
    rw [List.flatMap_cons, List.length_append, hf, ih, List.length_cons, Nat.add_mul, Nat.one_mul,
      Nat.add_comm]

/-- A block of a sequence, whatever follows it. -/
theorem slice_flatMap (hf : ∀ a, (f a).length = n) {xs : List α} {k : Nat} (hk : k < xs.length)
    {rest : List UInt8} : slice (xs.flatMap f ++ rest) (k * n) n = f xs[k] := by
  induction xs generalizing k with
  | nil => exact absurd hk (Nat.not_lt_zero k)
  | cons x xs ih =>
    rw [List.flatMap_cons, List.append_assoc]
    cases k with
    | zero =>
      rw [Nat.zero_mul]
      exact slice_append_left (hf x) _
    | succ k =>
      have hle : (f x).length ≤ (k + 1) * n := by
        rw [hf, Nat.add_mul, Nat.one_mul]
        omega
      have hoffset : (k + 1) * n - (f x).length = k * n := by
        rw [hf, Nat.add_mul, Nat.one_mul, Nat.add_sub_cancel]
      rw [slice_append_of_le hle, hoffset, ih (Nat.lt_of_succ_lt_succ hk)]
      rfl

end Blocks

end Buffer

/-- The `char[n]` at an offset of a buffer that is long enough. -/
def CharArray.ofSlice (bytes : List UInt8) (offset n : Nat) (h : offset + n ≤ bytes.length) :
    CharArray n :=
  ⟨Buffer.slice bytes offset n, Buffer.slice_length h⟩
