import ChatSC.ForStd.CString

/-!
# The substitution loops of the driver (`driver/module/substitution.c`)

`char` is signed where the module runs, so the range checks compare bytes as `Int8`; a byte above
127 is negative and in none of the ranges.  Input and output are memory from the pointer on.
-/

namespace ChatSC.Native

def kLowerAlphabet : List UInt8 := ascii "abcdefghijklmnopqrstuvwxyz"
def kLowerCipher : List UInt8 := ascii "qazwsxedcrfvtgbyhnujmikolp"
def kUpperAlphabet : List UInt8 := ascii "ABCDEFGHIJKLMNOPQRSTUVWXYZ"
def kUpperCipher : List UInt8 := ascii "QAZWSXEDCRFVTGBYHNUJMIKOLP"
def kDigits : List UInt8 := ascii "0123456789"
def kDigitCipher : List UInt8 := ascii "7319058246"

/-- `map_char`: the byte of `target` at the first place where `source` has `ch`. -/
def mapChar (ch : UInt8) : (source target : List UInt8) → UInt8
  | s :: source, t :: target => if s = ch then t else mapChar ch source target
  | _, _ => ch

/-- `ch >= lo && ch <= hi` for signed characters. -/
def charBetween (ch lo hi : UInt8) : Bool := lo.toInt8 ≤ ch.toInt8 && ch.toInt8 ≤ hi.toInt8

/-- `map_forward` -/
def mapForward (ch : UInt8) : UInt8 :=
  if charBetween ch 97 122 then mapChar ch kLowerAlphabet kLowerCipher
  else if charBetween ch 65 90 then mapChar ch kUpperAlphabet kUpperCipher
  else if charBetween ch 48 57 then mapChar ch kDigits kDigitCipher
  else ch

/-- `map_reverse` -/
def mapReverse (ch : UInt8) : UInt8 :=
  if charBetween ch 97 122 then mapChar ch kLowerCipher kLowerAlphabet
  else if charBetween ch 65 90 then mapChar ch kUpperCipher kUpperAlphabet
  else if charBetween ch 48 57 then mapChar ch kDigitCipher kDigits
  else ch

/-- The loop of the two transforms with its final store, for a buffer with `size` bytes left: a
    byte is stored while the input goes on and a byte is left for the NUL. -/
def transformLoop (f : UInt8 → UInt8) : (size : Nat) → (input output : List UInt8) → List UInt8
  | size + 1, b :: input, output =>
    -- `input[i] != '\0' && i + 1 < size`
    if b ≠ 0 ∧ 0 < size then f b :: transformLoop f size input output.tail
    else 0 :: output.tail
  | _ + 1, [], output => 0 :: output.tail
  | 0, _, output => output

/-- `substitution_transform`: the memory at `output` afterwards. -/
def substitutionTransform (input output : List UInt8) (size : Nat) : List UInt8 :=
  transformLoop mapForward size input output

/-- `substitution_reverse_transform`: the memory at `output` afterwards. -/
def substitutionReverseTransform (input output : List UInt8) (size : Nat) : List UInt8 :=
  transformLoop mapReverse size input output

/-- The loop stays inside its buffer. -/
theorem length_transformLoop (f : UInt8 → UInt8) {size : Nat} {output : List UInt8}
    (h : size ≤ output.length) (input : List UInt8) :
    (transformLoop f size input output).length = output.length := by
  induction size generalizing input output with
  | zero => simp only [transformLoop]
  | succ size ih =>
    have htail : size ≤ output.tail.length := by
      rw [List.length_tail]
      omega
    have hlen : output.tail.length + 1 = output.length := by
      rw [List.length_tail]
      omega
    cases input with
    | nil => simpa only [transformLoop, List.length_cons] using hlen
    | cons b input =>
      unfold transformLoop
      split
      · rw [List.length_cons, ih htail, hlen]
      · rw [List.length_cons, hlen]

end ChatSC.Native
