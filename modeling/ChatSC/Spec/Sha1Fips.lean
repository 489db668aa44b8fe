import ChatSC.ForStd.Sha1
import ChatSC.Spec.Sha1Digest
import Mathlib.Data.List.GetD

/-!
# The driver computes SHA-1

`sha1_transform` is the compression of a block, and between two updates the context stands for the
bytes consumed so far: its state is the hash value after their whole blocks, and its buffer starts
with the rest (`Consumed`).  `sha1_final` then lays out the padding in one block or in two.
-/

namespace ChatSC.Spec

open Blocks Buffer Native

/-! ## Words and bytes -/

theorem toBitVec_rol32Local_one (w : UInt32) :
    (rol32Local w 1).toBitVec = w.toBitVec.rotateLeft 1 := rfl

theorem toBitVec_rol32Local_five (w : UInt32) :
    (rol32Local w 5).toBitVec = w.toBitVec.rotateLeft 5 := rfl

theorem toBitVec_rol32Local_thirty (w : UInt32) :
    (rol32Local w 30).toBitVec = w.toBitVec.rotateLeft 30 := rfl

/-- The source joins the two sides of `ch` with `|`. -/
theorem toBitVec_ch (b c d : UInt32) : ((b &&& c) ||| (~~~b &&& d)).toBitVec =
    Sha1.ch b.toBitVec c.toBitVec d.toBitVec := by
  unfold Sha1.ch
  ext i hi
  simp only [UInt32.toBitVec_or, UInt32.toBitVec_and, UInt32.toBitVec_not, BitVec.getElem_or,
    BitVec.getElem_and, BitVec.getElem_not, BitVec.getElem_xor]
  cases b.toBitVec[i] <;> simp

/-- The source joins the three sides of `maj` with `|`. -/
theorem toBitVec_maj (b c d : UInt32) : ((b &&& c) ||| (b &&& d) ||| (c &&& d)).toBitVec =
    Sha1.maj b.toBitVec c.toBitVec d.toBitVec := by
  unfold Sha1.maj
  ext i hi
  simp only [UInt32.toBitVec_or, UInt32.toBitVec_and, BitVec.getElem_or, BitVec.getElem_and,
    BitVec.getElem_xor]
  cases b.toBitVec[i] <;> cases c.toBitVec[i] <;> simp

theorem testBit_byte_of_le {b : UInt8} {i : Nat} (hi : 8 ≤ i) : b.toNat.testBit i = false :=
  Nat.testBit_lt_two_pow (Nat.lt_of_lt_of_le b.toNat_lt (Nat.pow_le_pow_right (by decide) hi))

/-- The source puts the four bytes of a word at their places with shifts. -/
theorem toBitVec_word (b0 b1 b2 b3 : UInt8) :
    ((b0.toUInt32 <<< 24) ||| (b1.toUInt32 <<< 16) ||| (b2.toUInt32 <<< 8) |||
      b3.toUInt32).toBitVec = BitVec.ofNat 32 (Sha1.ofBigEndian [b0, b1, b2, b3]) := by
  have hbyte (b : UInt8) (i : Nat) : b.toUInt32.toBitVec.getLsbD i = b.toNat.testBit i := rfl
  have hnext (n : Nat) (b : UInt8) (i : Nat) : (256 * n + b.toNat).testBit i =
      if i < 8 then b.toNat.testBit i else n.testBit (i - 8) :=
    Nat.testBit_two_pow_mul_add n b.toNat_lt i
  have hshifts : ((b0.toUInt32 <<< 24) ||| (b1.toUInt32 <<< 16) ||| (b2.toUInt32 <<< 8) |||
      b3.toUInt32).toBitVec = b0.toUInt32.toBitVec <<< 24 ||| b1.toUInt32.toBitVec <<< 16 |||
        b2.toUInt32.toBitVec <<< 8 ||| b3.toUInt32.toBitVec := rfl
  apply BitVec.eq_of_getLsbD_eq
  intro i hi
  simp only [hshifts, BitVec.getLsbD_or, BitVec.getLsbD_shiftLeft, BitVec.getLsbD_ofNat, hi, hbyte,
    Sha1.ofBigEndian, List.foldl_cons, List.foldl_nil, hnext]
  -- one case for each byte that the bit can belong to
  rcases Nat.lt_or_ge i 8 with h8 | h8
  · have h16 : i < 16 := by omega
    have h24 : i < 24 := by omega
    simp [h8, h16, h24]
  rcases Nat.lt_or_ge i 16 with h16 | h16
  · have h24 : i < 24 := by omega
    have hlow : i - 8 < 8 := by omega
    simp [Nat.not_lt.mpr h8, h16, h24, hlow, testBit_byte_of_le h8]
  have hmid : 8 ≤ i - 8 := by omega
  rcases Nat.lt_or_ge i 24 with h24 | h24
  · have hlow : i - 16 < 8 := by omega
    simp [Nat.not_lt.mpr h8, Nat.not_lt.mpr h16, Nat.not_lt.mpr hmid, h24, hlow, Nat.sub_sub,
      testBit_byte_of_le h8, testBit_byte_of_le hmid]
  · have hlow : i - 24 < 8 := by omega
    have hhigh : 8 ≤ i - 16 := by omega
    simp [Nat.not_lt.mpr h8, Nat.not_lt.mpr h16, Nat.not_lt.mpr h24, Nat.not_lt.mpr hmid,
      Nat.not_lt.mpr hhigh, hlow, Nat.sub_sub, testBit_byte_of_le h8, testBit_byte_of_le hmid,
      testBit_byte_of_le hhigh]

theorem sha1WordBytes_eq (w : UInt32) : sha1WordBytes w = Sha1.bigEndian 4 w.toNat := by
  have hshifts : sha1WordBytes w =
      (List.range 4).map fun i => (w >>> UInt32.ofNat (8 * (4 - 1 - i))).toUInt8 := rfl
  rw [hshifts, Sha1.bigEndian]
  refine List.map_congr_left fun i hi => ?_
  have hlt : 8 * (4 - 1 - i) < 32 := by omega
  apply UInt8.toNat.inj
  rw [show 256 = 2 ^ 8 from rfl, ← Nat.pow_mul]
  simp [Nat.shiftRight_eq_div_pow, Nat.mod_eq_of_lt hlt]

theorem sha1CountBytes_eq (count : UInt64) : sha1CountBytes count = Sha1.bigEndian 8 count.toNat := by
  have hshifts : sha1CountBytes count =
      (List.range 8).map fun i => (count >>> UInt64.ofNat (8 * (8 - 1 - i))).toUInt8 := rfl
  rw [hshifts, Sha1.bigEndian]
  refine List.map_congr_left fun i hi => ?_
  have hlt : 8 * (8 - 1 - i) < 64 := by omega
  apply UInt8.toNat.inj
  rw [show 256 = 2 ^ 8 from rfl, ← Nat.pow_mul]
  simp [Nat.shiftRight_eq_div_pow, Nat.mod_eq_of_lt hlt]

/-! ## `sha1_transform` -/

/-- The hash value of the state words. -/
def hashOf (state : Sha1State) : Sha1.Hash where
  a := state.a.toBitVec
  b := state.b.toBitVec
  c := state.c.toBitVec
  d := state.d.toBitVec
  e := state.e.toBitVec

/-- The words of a block are those of its message schedule. -/
theorem sha1Words_eq {n : Nat} {block : List UInt8} (h : block.length = 4 * n) :
    (sha1Words block).length = n ∧
      ∀ t < n, ((sha1Words block).getD t 0).toBitVec = Sha1.word block t := by
  -- on the number of words, each of which takes the next four bytes
  induction n generalizing block with
  | zero =>
    rw [List.length_eq_zero_iff.mp h]
    exact ⟨rfl, fun t ht => absurd ht (Nat.not_lt_zero t)⟩
  | succ n ih =>
    obtain ⟨b0, b1, b2, b3, block, rfl⟩ : ∃ b0 b1 b2 b3 tail, block = b0 :: b1 :: b2 :: b3 :: tail := by
      match block, h with
      | b0 :: b1 :: b2 :: b3 :: tail, _ => exact ⟨b0, b1, b2, b3, tail, rfl⟩
    have htail : block.length = 4 * n := by
      simp only [List.length_cons] at h
      omega
    obtain ⟨hlength, hwords⟩ := ih htail
    refine ⟨by rw [sha1Words, List.length_cons, hlength], ?_⟩
    intro t ht
    cases t with
    | zero => exact toBitVec_word b0 b1 b2 b3
    | succ t =>
      rw [sha1Words, List.getD_cons_succ, hwords t (Nat.lt_of_succ_lt_succ ht)]
      rfl

/-- The words computed so far are those of the message schedule. -/
def Scheduled (block : List UInt8) (w : List UInt32) : Prop :=
  ∀ t < w.length, (w.getD t 0).toBitVec = Sha1.schedule block t

/-- The loop over `w[16]` to `w[79]` goes on with the schedule. -/
theorem sha1Expand_scheduled {block : List UInt8} (n : Nat) {w : List UInt32} (h16 : 16 ≤ w.length)
    (h : Scheduled block w) :
    (sha1Expand n w).length = w.length + n ∧ Scheduled block (sha1Expand n w) := by
  induction n generalizing w with
  | zero => exact ⟨rfl, h⟩
  | succ n ih =>
    rw [sha1Expand]
    -- the word that is added is the next one of the schedule, as its four sources are
    have hnext : Scheduled block (w ++ [rol32Local (w.getD (w.length - 3) 0 ^^^
        w.getD (w.length - 8) 0 ^^^ w.getD (w.length - 14) 0 ^^^ w.getD (w.length - 16) 0) 1]) := by
      intro t ht
      rw [List.length_append, List.length_singleton] at ht
      rcases Nat.lt_or_eq_of_le (Nat.le_of_lt_succ ht) with hlt | rfl
      · rw [List.getD_append _ _ _ _ hlt]
        exact h t hlt
      · rw [List.getD_append_right _ _ _ _ (Nat.le_refl _), Nat.sub_self, List.getD_cons_zero,
          Sha1.schedule, if_neg (Nat.not_lt.mpr h16), toBitVec_rol32Local_one, UInt32.toBitVec_xor,
          UInt32.toBitVec_xor, UInt32.toBitVec_xor, h _ (by omega), h _ (by omega), h _ (by omega),
          h _ (by omega)]
    obtain ⟨hlength, hscheduled⟩ := ih (by rw [List.length_append]; omega) hnext
    refine ⟨?_, hscheduled⟩
    rw [hlength, List.length_append, List.length_singleton]
    omega

/-- The body of the loop over the rounds is a round. -/
theorem hashOf_sha1Round (t : Nat) (w : UInt32) (s : Sha1State) {schedule : Nat → Sha1.Word}
    (h : w.toBitVec = schedule t) :
    hashOf (sha1Round t w s) = Sha1.round schedule (hashOf s) t := by
  unfold sha1Round Sha1.round Sha1.f Sha1.k
  simp only [hashOf, UInt32.toBitVec_add, toBitVec_rol32Local_five, toBitVec_rol32Local_thirty, h]
  -- the four ranges of rounds
  split_ifs with h20 h40 h60
  · rw [← toBitVec_ch]
    rfl
  · rfl
  · rw [← toBitVec_maj]
    rfl
  · rfl

/-- The loop over the rounds. -/
theorem hashOf_sha1Rounds (i : Nat) (ws : List UInt32) (s : Sha1State) {schedule : Nat → Sha1.Word}
    (h : ∀ t < ws.length, (ws.getD t 0).toBitVec = schedule (i + t)) :
    hashOf (sha1Rounds i ws s) =
      (List.range' i ws.length).foldl (Sha1.round schedule) (hashOf s) := by
  induction ws generalizing i s with
  | nil => rfl
  | cons w ws ih =>
    have hfirst : w.toBitVec = schedule i := h 0 (Nat.succ_pos _)
    have hrest : ∀ t < ws.length, (ws.getD t 0).toBitVec = schedule (i + 1 + t) := by
      intro t ht
      have hnext := h (t + 1) (Nat.succ_lt_succ ht)
      rwa [List.getD_cons_succ, Nat.add_comm t 1, ← Nat.add_assoc] at hnext
    rw [sha1Rounds, ih (i + 1) _ hrest, hashOf_sha1Round i w s hfirst, List.length_cons,
      List.range'_succ, List.foldl_cons]

/-- `sha1_transform` is the compression of a block. -/
theorem hashOf_sha1Transform (state : Sha1State) {block : List UInt8} (h : block.length = 64) :
    hashOf (sha1Transform state block) = Sha1.compress (hashOf state) block := by
  obtain ⟨hcount, hwords⟩ := sha1Words_eq (n := 16) h
  -- the first sixteen words are the block, and the loop expands them as the schedule does
  have hscheduled : Scheduled block (sha1Words block) := by
    intro t ht
    rw [hcount] at ht
    rw [hwords t ht, Sha1.schedule, if_pos ht]
  obtain ⟨hlength, hall⟩ := sha1Expand_scheduled 64 (Nat.le_of_eq hcount.symm) hscheduled
  have hscheduledAll : ∀ t < (sha1Expand 64 (sha1Words block)).length,
      ((sha1Expand 64 (sha1Words block)).getD t 0).toBitVec = Sha1.schedule block (0 + t) := by
    intro t ht
    rw [Nat.zero_add]
    exact hall t ht
  -- the rounds start at word zero
  have hrounds := hashOf_sha1Rounds 0 (sha1Expand 64 (sha1Words block)) state hscheduledAll
  have hcount80 : 16 + 64 = 80 := rfl
  rw [hlength, hcount, hcount80, ← List.range_eq_range'] at hrounds
  simp only [sha1Transform, Sha1.compress, ← hrounds]
  simp only [hashOf, UInt32.toBitVec_add]

/-- A block that completes the rest of some bytes. -/
theorem hashOf_absorbed {state : Sha1State} {bytes next : List UInt8}
    (hstate : hashOf state = Sha1.absorbed bytes) (hfull : (rest 64 bytes ++ next).length = 64) :
    hashOf (sha1Transform state (rest 64 bytes ++ next)) = Sha1.absorbed (bytes ++ next) ∧
      rest 64 (bytes ++ next) = [] := by
  have hnext : (rest 64 bytes).length + next.length = 64 := by rwa [← List.length_append]
  rw [hashOf_sha1Transform state hfull, hstate, Sha1.absorbed_append_of_eq hnext]
  exact ⟨rfl, (blocks_append_of_eq (by decide) hnext).2⟩

/-! ## `sha1_update` -/

/-- A context stands for the bytes consumed so far. -/
structure Consumed (bytes : List UInt8) (ctx : Sha1Context) : Prop where
  state_eq : hashOf ctx.state = Sha1.absorbed bytes
  buffer_length : ctx.buffer.length = 64
  buffer_take : ctx.buffer.take (bytes.length % 64) = rest 64 bytes

section Update

variable {bytes : List UInt8} {ctx : Sha1Context}

/-- The buffer with the next byte behind the rest. -/
theorem Consumed.buffer_set (h : Consumed bytes ctx) (b : UInt8) :
    ctx.buffer.set (bytes.length % 64) b =
      rest 64 bytes ++ b :: ctx.buffer.drop (bytes.length % 64 + 1) := by
  have hlt : bytes.length % 64 < ctx.buffer.length := by
    rw [h.buffer_length]
    exact Nat.mod_lt _ (by decide)
  rw [List.set_eq_take_append_cons_drop, if_pos hlt, h.buffer_take]

/-- A context at its start. -/
theorem consumed_sha1Init : Consumed [] sha1Init := ⟨rfl, rfl, rfl⟩

/-- One byte, in the middle of a block. -/
theorem Consumed.push (h : Consumed bytes ctx) {b : UInt8} (hlt : bytes.length % 64 + 1 < 64) :
    Consumed (bytes ++ [b]) { ctx with buffer := ctx.buffer.set (bytes.length % 64) b } := by
  have hroom : (rest 64 bytes).length + [b].length < 64 := by rwa [length_rest]
  have hindex : (bytes ++ [b]).length % 64 = bytes.length % 64 + 1 := by
    rw [List.length_append, List.length_singleton]
    omega
  -- the bytes that are not yet compressed stay behind the whole blocks
  refine ⟨?_, ?_, ?_⟩
  · rw [Sha1.absorbed_append_of_lt hroom]
    exact h.state_eq
  · rw [List.length_set, h.buffer_length]
  · rw [hindex, h.buffer_set b, (blocks_append_of_lt hroom).2,
      ← List.singleton_append, ← List.append_assoc]
    apply List.take_left'
    rw [List.length_append, length_rest]
    rfl

/-- One byte, at the end of a block. -/
theorem Consumed.push_last (h : Consumed bytes ctx) {b : UInt8} (hlast : bytes.length % 64 + 1 = 64) :
    Consumed (bytes ++ [b])
      { ctx with
        state := sha1Transform ctx.state (ctx.buffer.set (bytes.length % 64) b)
        buffer := ctx.buffer.set (bytes.length % 64) b } := by
  have hfull : (rest 64 bytes ++ [b]).length = 64 := by
    rwa [List.length_append, length_rest]
  obtain ⟨hstate, hrest⟩ := hashOf_absorbed h.state_eq hfull
  have hindex : (bytes ++ [b]).length % 64 = 0 := by
    rw [List.length_append, List.length_singleton]
    omega
  -- the byte that fills the buffer is the last of the block
  have hbuffer : ctx.buffer.set (bytes.length % 64) b = rest 64 bytes ++ [b] := by
    rw [h.buffer_set b, hlast, List.drop_of_length_le (Nat.le_of_eq h.buffer_length)]
  refine ⟨?_, ?_, ?_⟩
  · -- the block is compressed, and nothing is left behind it
    rw [hbuffer]
    exact hstate
  · rw [List.length_set, h.buffer_length]
  · rw [hindex, hrest]
    rfl

/-- The loop consumes its bytes. -/
theorem Consumed.updateLoop (h : Consumed bytes ctx) (data : List UInt8) :
    Consumed (bytes ++ data) (sha1UpdateLoop data (bytes.length % 64) ctx) ∧
      (sha1UpdateLoop data (bytes.length % 64) ctx).bitCount = ctx.bitCount := by
  induction data generalizing bytes ctx with
  | nil =>
    rw [List.append_nil]
    exact ⟨h, rfl⟩
  | cons b data ih =>
    have hmod := Nat.mod_lt bytes.length (show 0 < 64 by decide)
    have hlength : (bytes ++ [b]).length = bytes.length + 1 := List.length_append
    have hcons : bytes ++ b :: data = (bytes ++ [b]) ++ data := by
      rw [List.append_assoc, List.singleton_append]
    rw [sha1UpdateLoop, hcons]
    -- the byte that fills the buffer is followed by a transformation and an empty buffer
    by_cases hlast : bytes.length % 64 + 1 = 64
    · have hindex : (bytes ++ [b]).length % 64 = 0 := by omega
      have hnext := ih (h.push_last (b := b) hlast)
      rw [hindex] at hnext
      simp only [sha1BlockSize, if_pos hlast]
      exact hnext
    · have hindex : (bytes ++ [b]).length % 64 = bytes.length % 64 + 1 := by omega
      have hnext := ih (h.push (b := b) (by omega))
      rw [hindex] at hnext
      simp only [sha1BlockSize, if_neg hlast]
      exact hnext

/-- The bit count of a context. -/
def Counted (bytes : List UInt8) (ctx : Sha1Context) : Prop :=
  ctx.bitCount = UInt64.ofNat (8 * bytes.length)

theorem Counted.bufferIndex_eq (h : Counted bytes ctx) : ctx.bufferIndex = bytes.length % 64 := by
  rw [Sha1Context.bufferIndex, h, UInt64.toNat_ofNat', sha1BlockSize]
  omega

/-- An update consumes its piece. -/
theorem consumed_sha1Update (h : Consumed bytes ctx) (hcount : Counted bytes ctx)
    (data : List UInt8) : Consumed (bytes ++ data) (sha1Update ctx data) ∧
      Counted (bytes ++ data) (sha1Update ctx data) := by
  have hstart : Consumed bytes { ctx with bitCount := ctx.bitCount + UInt64.ofNat data.length * 8 } :=
    ⟨h.state_eq, h.buffer_length, h.buffer_take⟩
  obtain ⟨hconsumed, hbits⟩ := hstart.updateLoop data
  rw [sha1Update, hcount.bufferIndex_eq]
  refine ⟨hconsumed, hbits.trans ?_⟩
  show ctx.bitCount + UInt64.ofNat data.length * 8 = _
  rw [hcount, List.length_append, Nat.mul_add, UInt64.ofNat_add,
    Nat.mul_comm 8 data.length, UInt64.ofNat_mul data.length]
  rfl

/-- All updates consume all pieces. -/
theorem consumed_foldl (h : Consumed bytes ctx) (hcount : Counted bytes ctx)
    (pieces : List (List UInt8)) :
    Consumed (bytes ++ pieces.flatten) (pieces.foldl sha1Update ctx) ∧
      Counted (bytes ++ pieces.flatten) (pieces.foldl sha1Update ctx) := by
  induction pieces generalizing bytes ctx with
  | nil =>
    rw [List.flatten_nil, List.append_nil]
    exact ⟨h, hcount⟩
  | cons piece pieces ih =>
    obtain ⟨hconsumed, hcounted⟩ := consumed_sha1Update h hcount piece
    rw [List.flatten_cons, ← List.append_assoc]
    exact ih hconsumed hcounted

end Update

/-! ## `sha1_final` -/

/-- The zeros overwrite what is there up to a limit. -/
theorem sha1ZeroFill_append {buffer tail : List UInt8} {i limit : Nat} (hi : buffer.length = i) :
    sha1ZeroFill (buffer ++ tail) i limit =
      buffer ++ (List.replicate (limit - i) 0 ++ tail.drop (limit - i)) := by
  rw [sha1ZeroFill, writeAt_append_of_le (Nat.le_of_eq hi), hi, Nat.sub_self, writeAt, List.take_zero,
    List.nil_append, List.length_replicate, Nat.zero_add]

/-- The last block: zeros up to byte 56, and the count behind them. -/
theorem lastBlock_eq {buffer tail count : List UInt8} {i : Nat} (hi : buffer.length = i)
    (hle : i ≤ 56) (hlength : (buffer ++ tail).length = 64) (hcount : count.length = 8) :
    writeAt (sha1ZeroFill (buffer ++ tail) i 56) 56 count =
      buffer ++ List.replicate (56 - i) 0 ++ count := by
  -- the zeros end where the count begins
  have hfront : (buffer ++ List.replicate (56 - i) 0).length = 56 := by
    rw [List.length_append, List.length_replicate, hi]
    omega
  have htail : (tail.drop (56 - i)).length = count.length := by
    rw [List.length_append] at hlength
    rw [List.length_drop]
    omega
  -- the count covers all that was left of the buffer
  have hcover := writeAt_append_left htail []
  rw [List.append_nil, List.append_nil] at hcover
  rw [sha1ZeroFill_append hi, ← List.append_assoc, writeAt_append_of_le (Nat.le_of_eq hfront), hfront,
    Nat.sub_self, hcover]

theorem digest_hashOf (s : Sha1State) :
    sha1WordBytes s.a ++ sha1WordBytes s.b ++ sha1WordBytes s.c ++ sha1WordBytes s.d ++
      sha1WordBytes s.e = Sha1.digest (hashOf s) := by
  simp [Sha1.digest, hashOf, sha1WordBytes_eq]

/-- The padding in one block. -/
theorem sha1Final_of_le {ctx : Sha1Context} (h : ctx.bufferIndex + 1 ≤ 56) :
    sha1Final ctx = Sha1.digest (hashOf (sha1Transform ctx.state
      (writeAt (sha1ZeroFill (ctx.buffer.set ctx.bufferIndex 0x80) (ctx.bufferIndex + 1) 56) 56
        (sha1CountBytes ctx.bitCount)))) := by
  rw [← digest_hashOf, sha1Final]
  simp only [if_neg (Nat.not_lt.mpr h)]

/-- The padding in two blocks. -/
theorem sha1Final_of_gt {ctx : Sha1Context} (h : ctx.bufferIndex + 1 > 56) :
    sha1Final ctx = Sha1.digest (hashOf (sha1Transform
      (sha1Transform ctx.state
        (sha1ZeroFill (ctx.buffer.set ctx.bufferIndex 0x80) (ctx.bufferIndex + 1) sha1BlockSize))
      (writeAt (sha1ZeroFill (sha1ZeroFill (ctx.buffer.set ctx.bufferIndex 0x80)
        (ctx.bufferIndex + 1) sha1BlockSize) 0 56) 56 (sha1CountBytes ctx.bitCount)))) := by
  rw [← digest_hashOf, sha1Final]
  simp only [if_pos h]

section Final

variable {bytes : List UInt8} {ctx : Sha1Context}

/-- The rest and the first byte of the padding. -/
theorem length_marked : (rest 64 bytes ++ [(0x80 : UInt8)]).length = bytes.length % 64 + 1 := by
  rw [List.length_append, length_rest]
  rfl

theorem Consumed.buffer_marked (h : Consumed bytes ctx) :
    ctx.buffer.set (bytes.length % 64) 0x80 =
      rest 64 bytes ++ [0x80] ++ ctx.buffer.drop (bytes.length % 64 + 1) := by
  rw [h.buffer_set 0x80, ← List.singleton_append, ← List.append_assoc]

theorem Consumed.length_buffer_marked (h : Consumed bytes ctx) :
    (rest 64 bytes ++ [(0x80 : UInt8)] ++
      ctx.buffer.drop (bytes.length % 64 + 1)).length = 64 := by
  rw [← h.buffer_marked, List.length_set, h.buffer_length]

theorem Counted.countBytes_eq (hcount : Counted bytes ctx) :
    sha1CountBytes ctx.bitCount = Sha1.bigEndian 8 (8 * bytes.length) := by
  rw [sha1CountBytes_eq, hcount, UInt64.toNat_ofNat']
  exact Sha1.bigEndian_mod 8 _

/-- The padding fits into the block of the rest. -/
theorem hash_oneBlock (h : Consumed bytes ctx) (hone : bytes.length % 64 + 1 ≤ 56) :
    hashOf (sha1Transform ctx.state
      (writeAt (sha1ZeroFill (ctx.buffer.set (bytes.length % 64) 0x80) (bytes.length % 64 + 1) 56) 56
        (Sha1.bigEndian 8 (8 * bytes.length)))) = Sha1.absorbed (Sha1.pad bytes) := by
  have hbits := Sha1.length_bigEndian 8 (8 * bytes.length)
  have hzeros : Sha1.zeroCount bytes.length = 56 - (bytes.length % 64 + 1) :=
    Sha1.zeroCount_eq (by omega) (by omega)
  -- the mark, the zeros and the count fill up the block that was begun
  have hpad : Sha1.pad bytes = bytes ++ ([0x80] ++
      (List.replicate (56 - (bytes.length % 64 + 1)) 0 ++ Sha1.bigEndian 8 (8 * bytes.length))) := by
    rw [Sha1.pad, hzeros, List.append_assoc]
    rfl
  have hfull : (rest 64 bytes ++ ([(0x80 : UInt8)] ++
      (List.replicate (56 - (bytes.length % 64 + 1)) 0 ++
        Sha1.bigEndian 8 (8 * bytes.length)))).length = 64 := by
    rw [← List.append_assoc, List.length_append, length_marked, List.length_append,
      List.length_replicate, hbits]
    omega
  rw [h.buffer_marked, lastBlock_eq length_marked hone h.length_buffer_marked hbits,
    List.append_assoc, List.append_assoc, hpad]
  exact (hashOf_absorbed h.state_eq hfull).1

/-- The padding fills the block of the rest with zeros, and ends in one more block. -/
theorem hash_twoBlocks (h : Consumed bytes ctx) (htwo : 56 < bytes.length % 64 + 1)
    {first : List UInt8} (hblock : first = sha1ZeroFill (ctx.buffer.set (bytes.length % 64) 0x80)
      (bytes.length % 64 + 1) sha1BlockSize) :
    hashOf (sha1Transform (sha1Transform ctx.state first)
      (writeAt (sha1ZeroFill first 0 56) 56 (Sha1.bigEndian 8 (8 * bytes.length)))) =
        Sha1.absorbed (Sha1.pad bytes) := by
  have hmod := Nat.mod_lt bytes.length (show 0 < 64 by decide)
  have hbits := Sha1.length_bigEndian 8 (8 * bytes.length)
  -- the zeros fill up the first block and the second one up to the bit count
  have hzeros : Sha1.zeroCount bytes.length = 64 - (bytes.length % 64 + 1) + 56 :=
    Sha1.zeroCount_eq (by omega) (by omega)
  have hpad : Sha1.pad bytes = bytes ++ ([0x80] ++
      List.replicate (64 - (bytes.length % 64 + 1)) 0) ++
        (List.replicate 56 0 ++ Sha1.bigEndian 8 (8 * bytes.length)) := by
    rw [Sha1.pad, hzeros, ← List.replicate_append_replicate]
    simp only [List.append_assoc, List.cons_append, List.nil_append]
  have hdrop : (ctx.buffer.drop (bytes.length % 64 + 1)).drop (64 - (bytes.length % 64 + 1)) = [] := by
    apply List.drop_of_length_le
    rw [List.length_drop, h.buffer_length]
  have hfirstLength : (rest 64 bytes ++ ([(0x80 : UInt8)] ++
      List.replicate (64 - (bytes.length % 64 + 1)) 0)).length = 64 := by
    rw [← List.append_assoc, List.length_append, length_marked, List.length_replicate]
    omega
  obtain ⟨hfirst, hnone⟩ := hashOf_absorbed h.state_eq hfirstLength
  have hsecondLength : (rest 64 (bytes ++ ([(0x80 : UInt8)] ++
      List.replicate (64 - (bytes.length % 64 + 1)) 0)) ++
        (List.replicate 56 0 ++ Sha1.bigEndian 8 (8 * bytes.length))).length = 64 := by
    rw [hnone, List.nil_append, List.length_append, List.length_replicate, hbits]
  -- the second block is absorbed with nothing left over from the first
  have hsecond := (hashOf_absorbed hfirst hsecondLength).1
  -- what the code transforms are these blocks
  have hfill : first =
      rest 64 bytes ++ ([0x80] ++ List.replicate (64 - (bytes.length % 64 + 1)) 0) := by
    rw [hblock, h.buffer_marked, sha1ZeroFill_append length_marked, hdrop, List.append_nil,
      List.append_assoc]
  have hwhole : ([] ++ first).length = 64 := by
    rw [hfill]
    exact hfirstLength
  have hlast := lastBlock_eq List.length_nil (Nat.zero_le 56) hwhole hbits
  rw [List.nil_append, List.nil_append, Nat.sub_zero] at hlast
  rw [hnone, List.nil_append] at hsecond
  rw [hlast, hfill, hpad, ← hsecond]

/-- The digest of a context is the hash of the bytes that it has consumed. -/
theorem sha1Final_eq (h : Consumed bytes ctx) (hcount : Counted bytes ctx) :
    sha1Final ctx = Sha1.sha1 bytes := by
  -- `index > 56` after the `0x80` byte: no room for the bit count
  rcases Nat.lt_or_ge 56 (ctx.bufferIndex + 1) with htwo | hone
  · rw [sha1Final_of_gt htwo, hcount.countBytes_eq, hcount.bufferIndex_eq]
    rw [hcount.bufferIndex_eq] at htwo
    exact congrArg Sha1.digest (hash_twoBlocks h htwo rfl)
  · rw [sha1Final_of_le hone, hcount.countBytes_eq, hcount.bufferIndex_eq]
    rw [hcount.bufferIndex_eq] at hone
    exact congrArg Sha1.digest (hash_oneBlock h hone)

end Final

/-- Updates with all pieces of a string, and the digest. -/
theorem sha1Final_foldl (pieces : List (List UInt8)) :
    sha1Final (pieces.foldl sha1Update sha1Init) = Sha1.sha1 pieces.flatten := by
  obtain ⟨hconsumed, hcounted⟩ := consumed_foldl consumed_sha1Init rfl pieces
  exact sha1Final_eq hconsumed hcounted

/-- The SHA-1 of the driver is that of the standard: in one call, and for a string in any pieces. -/
theorem kernel_sha1_is_sha1 :
    (∀ (message tail output : List UInt8) (size : Nat), 0 ∉ message → 41 ≤ size →
      size ≤ output.length → kernelSha1Transform (message ++ 0 :: tail) output size =
        hexDigits (Sha1.sha1 message) ++ 0 :: output.drop 41) ∧
    ∀ pieces : List (List UInt8),
      sha1Final (pieces.foldl sha1Update sha1Init) = Sha1.sha1 pieces.flatten := by
  refine ⟨fun message tail output size hmessage hsize hroom => ?_, sha1Final_foldl⟩
  have hdigest : sha1Digest message = Sha1.sha1 message := by
    have hone := sha1Final_foldl [message]
    rwa [List.flatten_singleton] at hone
  rw [kernelSha1Transform_of_le hsize hroom, CString.cstr_append_zero hmessage, hdigest]

/-- `kernel_sha1_is_sha1` for the message `abc` and for an empty piece. -/
theorem kernel_sha1_abc :
    kernelSha1Transform (ascii "abc" ++ [0]) (List.replicate 41 7) 41 =
      ascii "a9993e364706816aba3e25717850c26c9cd0d89d" ++ [0] ∧
    kernelSha1Transform (ascii "abc" ++ [0]) (List.replicate 41 7) 41 =
      hexDigits (Sha1.sha1 (ascii "abc")) ++ [0] ∧
    sha1Final (sha1Update sha1Init []) = Sha1.sha1 [] :=
  ⟨by decide +kernel,
    kernel_sha1_is_sha1.1 (ascii "abc") [] (List.replicate 41 7) 41 (by decide) (by decide)
      (by decide),
    kernel_sha1_is_sha1.2 [[]]⟩

end ChatSC.Spec
