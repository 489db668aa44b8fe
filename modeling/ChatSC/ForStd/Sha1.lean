import ChatSC.ForStd.Blocks
import Mathlib.Data.BitVec
import Mathlib.Data.Nat.Find

/-!
# SHA-1

The hash of FIPS 180-4 for byte strings: a message is padded to whole blocks of 64 bytes, and the hash
value goes through `compress` once for each block.  Words are 32 bits wide, and all numbers are
written with the highest byte first.
-/

namespace Sha1

open Blocks

abbrev Word := BitVec 32

/-- The five words of a hash value, also the working variables. -/
structure Hash where
  a : Word
  b : Word
  c : Word
  d : Word
  e : Word
deriving DecidableEq

/-! ## Bytes of numbers -/

/-- The `n` low bytes of a number, highest first. -/
def bigEndian (n value : Nat) : List UInt8 :=
  (List.range n).map fun i => UInt8.ofNat (value / 256 ^ (n - 1 - i))

/-- The number of some bytes, highest first. -/
def ofBigEndian (bytes : List UInt8) : Nat := bytes.foldl (fun n b => 256 * n + b.toNat) 0

theorem length_bigEndian (n value : Nat) : (bigEndian n value).length = n := by
  rw [bigEndian, List.length_map, List.length_range]

/-- What does not fit into `n` bytes does not count. -/
theorem bigEndian_mod (n value : Nat) : bigEndian n (value % 256 ^ n) = bigEndian n value := by
  refine List.map_congr_left fun i hi => ?_
  have hlt : i < n := List.mem_range.mp hi
  have hsplit : 256 ^ n = 256 ^ (n - 1 - i) * 256 ^ (i + 1) := by
    rw [← Nat.pow_add]
    congr 1
    omega
  have hdvd : 256 ∣ 256 ^ (i + 1) := Dvd.intro_left (256 ^ i) (Nat.pow_succ ..).symm
  apply UInt8.toNat.inj
  rw [UInt8.toNat_ofNat', UInt8.toNat_ofNat', hsplit, Nat.mod_mul_right_div_self,
    Nat.mod_mod_of_dvd _ hdvd]

/-! ## Functions and constants -/

def ch (x y z : Word) : Word := (x &&& y) ^^^ (~~~x &&& z)

def parity (x y z : Word) : Word := x ^^^ y ^^^ z

def maj (x y z : Word) : Word := (x &&& y) ^^^ (x &&& z) ^^^ (y &&& z)

/-- The function of round `t`. -/
def f (t : Nat) : Word → Word → Word → Word :=
  if t < 20 then ch else if t < 40 then parity else if t < 60 then maj else parity

/-- The constant of round `t`. -/
def k (t : Nat) : Word :=
  if t < 20 then 0x5a827999
  else if t < 40 then 0x6ed9eba1
  else if t < 60 then 0x8f1bbcdc
  else 0xca62c1d6

/-- The initial hash value. -/
def initial : Hash := ⟨0x67452301, 0xefcdab89, 0x98badcfe, 0x10325476, 0xc3d2e1f0⟩

/-! ## Padding -/

theorem exists_zeroCount (length : Nat) : ∃ count, (length + 1 + count) % 64 = 56 :=
  ⟨119 - length % 64, by omega⟩

/-- The zero bytes between the first byte of the padding and the length: the smallest number with
    which eight bytes are left of the last block. -/
def zeroCount (length : Nat) : Nat := Nat.find (exists_zeroCount length)

theorem zeroCount_eq {length count : Nat} (h : (length + 1 + count) % 64 = 56) (hlt : count < 64) :
    zeroCount length = count :=
  (Nat.find_eq_iff _).mpr ⟨h, fun smaller hsmaller hagain => by omega⟩

/-- The padded message: one bit, zeros, and the length in bits as a number of 64 bits.  A message is
    shorter than 2^61 bytes there; of a longer one the low 64 bits of the length are taken. -/
def pad (message : List UInt8) : List UInt8 :=
  message ++ 0x80 :: List.replicate (zeroCount message.length) 0 ++
    bigEndian 8 (8 * message.length)

/-! ## Compression -/

/-- Word `t` of a block. -/
def word (block : List UInt8) (t : Nat) : Word :=
  BitVec.ofNat 32 (ofBigEndian ((block.drop (4 * t)).take 4))

/-- Word `t` of the message schedule. -/
def schedule (block : List UInt8) (t : Nat) : Word :=
  if t < 16 then word block t
  else (schedule block (t - 3) ^^^ schedule block (t - 8) ^^^ schedule block (t - 14) ^^^
    schedule block (t - 16)).rotateLeft 1

/-- Round `t`. -/
def round (w : Nat → Word) (h : Hash) (t : Nat) : Hash :=
  { a := h.a.rotateLeft 5 + f t h.b h.c h.d + h.e + k t + w t
    b := h.a
    c := h.b.rotateLeft 30
    d := h.c
    e := h.d }

/-- The hash value after a block. -/
def compress (h : Hash) (block : List UInt8) : Hash :=
  let last := (List.range 80).foldl (round (schedule block)) h
  ⟨h.a + last.a, h.b + last.b, h.c + last.c, h.d + last.d, h.e + last.e⟩

/-- The hash value after the whole blocks of a byte string. -/
def absorbed (bytes : List UInt8) : Hash := (blocks 64 bytes).foldl compress initial

/-- Bytes that do not complete a block leave the hash value alone. -/
theorem absorbed_append_of_lt {bytes next : List UInt8}
    (h : (rest 64 bytes).length + next.length < 64) : absorbed (bytes ++ next) = absorbed bytes := by
  rw [absorbed, (blocks_append_of_lt h).1, absorbed]

/-- Bytes that complete a block compress it. -/
theorem absorbed_append_of_eq {bytes next : List UInt8}
    (h : (rest 64 bytes).length + next.length = 64) :
    absorbed (bytes ++ next) = compress (absorbed bytes) (rest 64 bytes ++ next) := by
  rw [absorbed, (blocks_append_of_eq (by decide) h).1, List.foldl_append, List.foldl_cons,
    List.foldl_nil, absorbed]

/-- The digest of a hash value. -/
def digest (h : Hash) : List UInt8 :=
  [h.a, h.b, h.c, h.d, h.e].flatMap fun w => bigEndian 4 w.toNat

/-- The hash of a message. -/
def sha1 (message : List UInt8) : List UInt8 := digest (absorbed (pad message))

end Sha1
