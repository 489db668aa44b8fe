import ChatSC.ForStd.Buffer

/-!
# The SHA-1 of the driver (`driver/module/sha1_digest.c`)

The context keeps the five state words, the bit count and the 64-byte buffer.  Arrays of the source
are lists here; the loops index them as the source does.
-/

namespace ChatSC.Native

abbrev sha1BlockSize : Nat := 64
abbrev sha1DigestSize : Nat := 20

/-- The five words `state[5]`, also the working variables `a` to `e`. -/
structure Sha1State where
  a : UInt32
  b : UInt32
  c : UInt32
  d : UInt32
  e : UInt32
deriving DecidableEq, Repr

/-- `sha1_context_t` -/
structure Sha1Context where
  state : Sha1State
  bitCount : UInt64
  buffer : List UInt8
deriving DecidableEq, Repr

/-- `rol32_local` -/
def rol32Local (value : UInt32) (bits : UInt32) : UInt32 :=
  (value <<< bits) ||| (value >>> (32 - bits))

/-- `w[0]` to `w[15]`: the big-endian words of the block. -/
def sha1Words : List UInt8 → List UInt32
  | b0 :: b1 :: b2 :: b3 :: rest =>
    ((b0.toUInt32 <<< 24) ||| (b1.toUInt32 <<< 16) ||| (b2.toUInt32 <<< 8) ||| b3.toUInt32) ::
      sha1Words rest
  | _ => []

/-- The loop that computes `w[16]` to `w[79]`, `n` of them. -/
def sha1Expand : (n : Nat) → (w : List UInt32) → List UInt32
  | 0, w => w
  | n + 1, w =>
    let i := w.length
    sha1Expand n (w ++ [rol32Local
      (w.getD (i - 3) 0 ^^^ w.getD (i - 8) 0 ^^^ w.getD (i - 14) 0 ^^^ w.getD (i - 16) 0) 1])

/-- The body of the loop over the 80 rounds. -/
def sha1Round (i : Nat) (w : UInt32) (s : Sha1State) : Sha1State :=
  let (f, k) :=
    if i < 20 then ((s.b &&& s.c) ||| (~~~s.b &&& s.d), 0x5A827999)
    else if i < 40 then (s.b ^^^ s.c ^^^ s.d, 0x6ED9EBA1)
    else if i < 60 then ((s.b &&& s.c) ||| (s.b &&& s.d) ||| (s.c &&& s.d), 0x8F1BBCDC)
    else (s.b ^^^ s.c ^^^ s.d, 0xCA62C1D6)
  let temp := rol32Local s.a 5 + f + s.e + k + w
  { a := temp, b := s.a, c := rol32Local s.b 30, d := s.c, e := s.d }

/-- The loop over the rounds from round `i` on. -/
def sha1Rounds : (i : Nat) → (w : List UInt32) → Sha1State → Sha1State
  | _, [], s => s
  | i, w :: ws, s => sha1Rounds (i + 1) ws (sha1Round i w s)

/-- `sha1_transform` -/
def sha1Transform (state : Sha1State) (buffer : List UInt8) : Sha1State :=
  let s := sha1Rounds 0 (sha1Expand 64 (sha1Words buffer)) state
  { a := state.a + s.a, b := state.b + s.b, c := state.c + s.c, d := state.d + s.d,
    e := state.e + s.e }

/-- `sha1_init` -/
def sha1Init : Sha1Context where
  state := ⟨0x67452301, 0xEFCDAB89, 0x98BADCFE, 0x10325476, 0xC3D2E1F0⟩
  bitCount := 0
  buffer := List.replicate sha1BlockSize 0

/-- `(ctx->bit_count / 8) % SHA1_BLOCK_SIZE` -/
def Sha1Context.bufferIndex (ctx : Sha1Context) : Nat := ctx.bitCount.toNat / 8 % sha1BlockSize

/-- The loop of `sha1_update`. -/
def sha1UpdateLoop : (data : List UInt8) → (bufferIndex : Nat) → Sha1Context → Sha1Context
  | [], _, ctx => ctx
  | b :: data, bufferIndex, ctx =>
    let ctx := { ctx with buffer := ctx.buffer.set bufferIndex b }
    if bufferIndex + 1 = sha1BlockSize then
      sha1UpdateLoop data 0 { ctx with state := sha1Transform ctx.state ctx.buffer }
    else sha1UpdateLoop data (bufferIndex + 1) ctx

/-- `sha1_update` -/
def sha1Update (ctx : Sha1Context) (data : List UInt8) : Sha1Context :=
  sha1UpdateLoop data ctx.bufferIndex
    { ctx with bitCount := ctx.bitCount + UInt64.ofNat data.length * 8 }

/-- `while (buffer_index < limit) { ctx->buffer[buffer_index++] = 0; }` -/
def sha1ZeroFill (buffer : List UInt8) (bufferIndex limit : Nat) : List UInt8 :=
  Buffer.writeAt buffer bufferIndex (List.replicate (limit - bufferIndex) 0)

/-- The eight bytes of the bit count, highest first. -/
def sha1CountBytes (bitCount : UInt64) : List UInt8 :=
  [56, 48, 40, 32, 24, 16, 8, 0].map fun shift : UInt64 => (bitCount >>> shift).toUInt8

/-- The four bytes of a state word, highest first. -/
def sha1WordBytes (w : UInt32) : List UInt8 :=
  [24, 16, 8, 0].map fun shift : UInt32 => (w >>> shift).toUInt8

/-- `sha1_final`: the digest. -/
def sha1Final (ctx : Sha1Context) : List UInt8 :=
  let bufferIndex := ctx.bufferIndex
  let buffer := ctx.buffer.set bufferIndex 0x80
  let (state, buffer, bufferIndex) :=
    if bufferIndex + 1 > 56 then
      let buffer := sha1ZeroFill buffer (bufferIndex + 1) sha1BlockSize
      (sha1Transform ctx.state buffer, buffer, 0)
    else (ctx.state, buffer, bufferIndex + 1)
  let buffer := sha1ZeroFill buffer bufferIndex 56
  let buffer := Buffer.writeAt buffer 56 (sha1CountBytes ctx.bitCount)
  let s := sha1Transform state buffer
  sha1WordBytes s.a ++ sha1WordBytes s.b ++ sha1WordBytes s.c ++ sha1WordBytes s.d ++
    sha1WordBytes s.e

/-- A lowercase hexadecimal digit. -/
def hexDigit (n : UInt8) : UInt8 := if n < 10 then 48 + n else 87 + n

/-- What `"%02x"` prints. -/
def hexByte (b : UInt8) : List UInt8 := [hexDigit (b / 16), hexDigit (b % 16)]

/-- The loop that prints the digest from byte `i` on: two digits and a NUL at `output + i * 2`. -/
def sha1HexLoop : (i : Nat) → (digest output : List UInt8) → List UInt8
  | _, [], output => output
  | i, b :: digest, output =>
    sha1HexLoop (i + 1) digest (Buffer.writeAt output (i * 2) (hexByte b ++ [0]))

/-- `kernel_sha1_transform`: the memory at `output` afterwards. -/
def kernelSha1Transform (input output : List UInt8) (size : Nat) : List UInt8 :=
  if size < 41 then
    if size > 0 then output.set 0 0 else output
  else
    let digest := sha1Final (sha1Update sha1Init (cstr input))
    (sha1HexLoop 0 digest output).set 40 0

theorem length_sha1Final (ctx : Sha1Context) : (sha1Final ctx).length = sha1DigestSize := rfl

/-- The loop stays inside a buffer that has room for the digits and the NUL. -/
theorem length_sha1HexLoop {i : Nat} {digest output : List UInt8}
    (h : (i + digest.length) * 2 + 1 ≤ output.length) :
    (sha1HexLoop i digest output).length = output.length := by
  induction digest generalizing i output with
  | nil => rfl
  | cons b digest ih =>
    rw [List.length_cons] at h
    have hwrite : (Buffer.writeAt output (i * 2) (hexByte b ++ [0])).length = output.length := by
      apply Buffer.length_writeAt
      show i * 2 + 3 ≤ output.length
      omega
    rw [sha1HexLoop, ih (by rw [hwrite]; omega), hwrite]

/-- The transform stays inside its buffer. -/
theorem length_kernelSha1Transform {size : Nat} {output : List UInt8} (h : size ≤ output.length)
    (input : List UInt8) : (kernelSha1Transform input output size).length = output.length := by
  unfold kernelSha1Transform
  split
  · split
    · exact List.length_set
    · rfl
  · rw [List.length_set]
    apply length_sha1HexLoop
    rw [length_sha1Final]
    show (0 + 20) * 2 + 1 ≤ output.length
    omega

end ChatSC.Native
