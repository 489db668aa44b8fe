import Mathlib.Data.List.TakeWhile
import Mathlib.Algebra.GroupWithZero.Nat

/-!
# C strings and character arrays

A pointer to characters is modelled by the list of bytes from the pointee to the end of the
memory that follows it.  `cstr` is the C string there: the bytes before the first NUL.

`CharArray n` is a `char[n]` with all of its bytes, for data that is sent and received raw, where
nothing says that there is a NUL.  `CString n` is the value of a `char[n]` that the program itself
keeps terminated: a string without a NUL, shorter than `n`.  Both carry their invariant as a field.

`CharArray.ofStr` and `CString.ofStr` are `snprintf(dst, n, "%s", s)`: at most `n - 1` bytes of the
string are copied and a NUL follows.
-/

/-- The C string at the start of a piece of memory: the bytes before the first NUL. -/
def cstr (mem : List UInt8) : List UInt8 := mem.takeWhile (· ≠ 0)

/-- The bytes of a string literal of ASCII characters. -/
def ascii (s : String) : List UInt8 := s.toList.map fun c => UInt8.ofNat c.toNat

namespace CString

theorem zero_notMem_cstr (mem : List UInt8) : 0 ∉ cstr mem := by
  intro h
  simpa using List.mem_takeWhile_imp h

/-- A list without a NUL is its own C string. -/
theorem cstr_eq_self {s : List UInt8} (h : 0 ∉ s) : cstr s = s := by
  unfold cstr
  rw [List.takeWhile_eq_self_iff]
  intro b hb
  simp only [ne_eq, decide_not, Bool.not_eq_eq_eq_not, Bool.not_true, decide_eq_false_iff_not]
  rintro rfl
  exact h hb

@[simp] theorem cstr_cstr (mem : List UInt8) : cstr (cstr mem) = cstr mem :=
  cstr_eq_self (zero_notMem_cstr mem)

@[simp] theorem cstr_nil : cstr [] = [] := rfl

@[simp] theorem cstr_zero_cons (t : List UInt8) : cstr (0 :: t) = [] := by
  simp [cstr]

theorem cstr_cons_of_ne {b : UInt8} (h : b ≠ 0) (t : List UInt8) : cstr (b :: t) = b :: cstr t := by
  simp [cstr, h]

/-- The string ends at the NUL, whatever lies behind it. -/
theorem cstr_append_zero {s : List UInt8} (h : 0 ∉ s) (t : List UInt8) :
    cstr (s ++ 0 :: t) = s := by
  induction s with
  | nil => simp
  | cons b s ih =>
    have hb : b ≠ 0 := fun hb => h (by simp [hb])
    have hs : 0 ∉ s := fun hs => h (List.mem_cons_of_mem b hs)
    rw [List.cons_append, cstr_cons_of_ne hb, ih hs]

/-- Memory behind a NUL does not count. -/
theorem cstr_append_of_mem {a : List UInt8} (h : 0 ∈ a) (b : List UInt8) :
    cstr (a ++ b) = cstr a := by
  induction a with
  | nil => simp at h
  | cons x a ih =>
    by_cases hx : x = 0
    · subst hx; simp
    · have ha : 0 ∈ a := by
        rcases List.mem_cons.mp h with h0 | h0
        · exact absurd h0.symm hx
        · exact h0
      rw [List.cons_append, cstr_cons_of_ne hx, cstr_cons_of_ne hx, ih ha]

/-- A string that runs through `a` without a NUL goes on behind it. -/
theorem cstr_append_of_notMem {a : List UInt8} (h : 0 ∉ a) (b : List UInt8) :
    cstr (a ++ b) = a ++ cstr b := by
  induction a with
  | nil => rfl
  | cons x a ih =>
    have hx : x ≠ 0 := fun hx => h (by simp [hx])
    rw [List.cons_append, cstr_cons_of_ne hx, ih (fun ha => h (List.mem_cons_of_mem x ha)),
      List.cons_append]

/-- The string is empty exactly when the first byte is a NUL (or there is none). -/
theorem cstr_eq_nil_iff {mem : List UInt8} : cstr mem = [] ↔ mem.head?.getD 0 = 0 := by
  cases mem with
  | nil => simp
  | cons b t =>
    by_cases hb : b = 0
    · subst hb; simp
    · simp [cstr_cons_of_ne hb, hb]

/-- The string is never longer than the memory it lies in. -/
theorem length_cstr_le (mem : List UInt8) : (cstr mem).length ≤ mem.length :=
  (List.takeWhile_prefix _).length_le

/-- The string in memory that holds a NUL leaves room for it. -/
theorem length_cstr_lt {mem : List UInt8} (h : 0 ∈ mem) : (cstr mem).length < mem.length := by
  refine Nat.lt_of_le_of_ne (length_cstr_le mem) fun hlen => ?_
  have heq : cstr mem = mem := (List.takeWhile_prefix _).eq_of_length hlen
  apply zero_notMem_cstr mem
  rwa [heq]

/-- Taking bytes from the front commutes with ending at the first NUL. -/
theorem cstr_take (n : Nat) (mem : List UInt8) : cstr (mem.take n) = (cstr mem).take n := by
  induction mem generalizing n with
  | nil => simp
  | cons b t ih =>
    cases n with
    | zero => simp
    | succ n =>
      by_cases hb : b = 0
      · subst hb; simp
      · rw [List.take_succ_cons, cstr_cons_of_ne hb, cstr_cons_of_ne hb, List.take_succ_cons, ih]

/-- The bytes of a string that is cut, one by one. -/
theorem take_cstr_succ (n : Nat) (a : List UInt8) :
    (cstr a).take (n + 1) =
      if a.headD 0 = 0 then [] else a.headD 0 :: (cstr a.tail).take n := by
  cases a with
  | nil => rfl
  | cons x a =>
    by_cases hx : x = 0
    · subst hx
      simp
    · simp [cstr_cons_of_ne hx, hx]

/-- Two texts differ at one of their first `n` bytes, with no NUL before it; a text goes on in NULs
    behind its end. -/
def DifferWithin (n : Nat) (a b : List UInt8) : Prop :=
  ∃ i < n, 0 ∉ a.take i ∧ a.take i = b.take i ∧ a.getD i 0 ≠ b.getD i 0

instance (n : Nat) (a b : List UInt8) : Decidable (DifferWithin n a b) :=
  inferInstanceAs (Decidable (∃ i < n, 0 ∉ a.take i ∧ a.take i = b.take i ∧ a.getD i 0 ≠ b.getD i 0))

/-- Texts differ at their first byte, or at a later one. -/
theorem differWithin_succ (n : Nat) (a b : List UInt8) :
    DifferWithin (n + 1) a b ↔
      a.headD 0 ≠ b.headD 0 ∨
        a.headD 0 = b.headD 0 ∧ a.headD 0 ≠ 0 ∧ DifferWithin n a.tail b.tail := by
  constructor
  · rintro ⟨i, hi, h0, htake, hne⟩
    cases i with
    | zero =>
      left
      rwa [List.headD_eq_getD, List.headD_eq_getD]
    | succ i =>
      right
      cases a with
      | nil =>
        cases b with
        | nil => exact absurd rfl hne
        | cons y b => cases htake
      | cons x a =>
        cases b with
        | nil => cases htake
        | cons y b =>
          simp only [List.take_succ_cons, List.mem_cons, not_or, List.cons.injEq] at h0 htake
          -- the first bytes agree, so the difference is further on
          exact ⟨htake.1, Ne.symm h0.1, i, Nat.lt_of_succ_lt_succ hi, h0.2, htake.2,
            by simpa using hne⟩
  · rintro (hne | ⟨heq, hx, i, hi, h0, htake, hne⟩)
    · rw [List.headD_eq_getD, List.headD_eq_getD] at hne
      exact ⟨0, Nat.succ_pos n, List.not_mem_nil, rfl, hne⟩
    · cases a with
      | nil => exact absurd rfl hx
      | cons x a =>
        cases b with
        | nil => exact absurd heq hx
        | cons y b =>
          have hxy : x = y := heq
          refine ⟨i + 1, Nat.succ_lt_succ hi, ?_, ?_, by simpa using hne⟩
          · simpa using ⟨Ne.symm hx, h0⟩
          · simpa using ⟨hxy, htake⟩

/-- What cutting their strings after `n` bytes tells apart. -/
theorem take_cstr_ne_iff (n : Nat) (a b : List UInt8) :
    (cstr a).take n ≠ (cstr b).take n ↔ DifferWithin n a b := by
  induction n generalizing a b with
  | zero => simp [DifferWithin]
  | succ n ih =>
    rw [take_cstr_succ, take_cstr_succ, differWithin_succ, ← ih]
    generalize a.headD 0 = x
    generalize b.headD 0 = y
    by_cases hx : x = 0
    · by_cases hy : y = 0
      · simp [hx, hy]
      · simp [hx, hy, Ne.symm hy]
    · by_cases hy : y = 0
      · simp [hx, hy]
      · by_cases hxy : x = y
        · simp [hxy, hy]
        · simp [hx, hy, hxy]

end CString

/-- A `char[n]`: exactly `n` bytes, with or without a NUL among them. -/
structure CharArray (n : Nat) where
  bytes : List UInt8
  size_eq : bytes.length = n
deriving DecidableEq

namespace CharArray

open CString

/-- `memset(dst, 0, n)`. -/
def zero (n : Nat) : CharArray n := ⟨List.replicate n 0, List.length_replicate⟩

/-- `array[0]` -/
def first {n : Nat} (a : CharArray n) : UInt8 := a.bytes.headD 0

/-- `snprintf(dst, n, "%s", s)` into a zeroed `char[n]`, for the memory `s` that the argument
    points to: `n - 1` bytes of the string at most, then NULs. -/
def ofStr (n : Nat) (s : List UInt8) : CharArray n :=
  let copied := (cstr s).take (n - 1)
  ⟨copied ++ List.replicate (n - copied.length) 0, by
    have : copied.length ≤ n - 1 := List.length_take_le _ _
    rw [List.length_append, List.length_replicate]
    omega⟩

/-- The first `n - 1` bytes, NULs among them or not, in a zeroed `char[n]`. -/
def padded (n : Nat) (s : List UInt8) : CharArray n :=
  ⟨s.take (n - 1) ++ List.replicate (n - (s.take (n - 1)).length) 0, by
    have : (s.take (n - 1)).length ≤ n - 1 := List.length_take_le _ _
    rw [List.length_append, List.length_replicate]
    omega⟩

@[ext] protected theorem ext {n : Nat} {a b : CharArray n} (h : a.bytes = b.bytes) : a = b := by
  cases a; cases b; cases h; rfl

@[simp] theorem bytes_zero (n : Nat) : (zero n).bytes = List.replicate n 0 := rfl

/-- What `snprintf` leaves in the array: the cut string, its NUL and the zeros behind it. -/
theorem bytes_ofStr {n : Nat} (hn : 0 < n) (s : List UInt8) :
    ∃ pad, (ofStr n s).bytes = (cstr s).take (n - 1) ++ 0 :: pad := by
  have hlen : ((cstr s).take (n - 1)).length ≤ n - 1 := List.length_take_le _ _
  refine ⟨List.replicate (n - ((cstr s).take (n - 1)).length - 1) 0, ?_⟩
  rw [← List.replicate_succ]
  simp only [ofStr]
  congr 2
  omega

/-- The C string in an array filled by `snprintf`. -/
theorem cstr_ofStr {n : Nat} (hn : 0 < n) (s : List UInt8) :
    cstr (ofStr n s).bytes = (cstr s).take (n - 1) := by
  obtain ⟨pad, hpad⟩ := bytes_ofStr hn s
  have h0 : 0 ∉ (cstr s).take (n - 1) := fun h => zero_notMem_cstr s (List.mem_of_mem_take h)
  rw [hpad, cstr_append_zero h0]

/-- An array filled by `snprintf` holds a NUL. -/
theorem zero_mem_ofStr {n : Nat} (hn : 0 < n) (s : List UInt8) : 0 ∈ (ofStr n s).bytes := by
  obtain ⟨pad, hpad⟩ := bytes_ofStr hn s
  rw [hpad]
  simp

/-- What a padded array holds: the bytes that fit, a NUL and the zeros behind it. -/
theorem bytes_padded {n : Nat} (hn : 0 < n) (s : List UInt8) :
    ∃ pad, (padded n s).bytes = s.take (n - 1) ++ 0 :: pad := by
  have hlen : (s.take (n - 1)).length ≤ n - 1 := List.length_take_le _ _
  refine ⟨List.replicate (n - (s.take (n - 1)).length - 1) 0, ?_⟩
  rw [← List.replicate_succ, Nat.sub_add_cancel (by omega)]
  rfl

/-- The C string in a padded array. -/
theorem cstr_padded {n : Nat} (hn : 0 < n) (s : List UInt8) :
    cstr (padded n s).bytes = (cstr s).take (n - 1) := by
  obtain ⟨pad, hpad⟩ := bytes_padded hn s
  rw [hpad, ← cstr_take]
  by_cases h0 : 0 ∈ s.take (n - 1)
  · rw [cstr_append_of_mem h0]
  · rw [cstr_append_zero h0, cstr_eq_self h0]

/-- A padded array holds a NUL. -/
theorem zero_mem_padded {n : Nat} (hn : 0 < n) (s : List UInt8) : 0 ∈ (padded n s).bytes := by
  obtain ⟨pad, hpad⟩ := bytes_padded hn s
  rw [hpad]
  simp

/-- The first byte of a padded array. -/
theorem first_padded {n : Nat} (hn : 1 < n) (s : List UInt8) :
    (padded n s).first = s.head?.getD 0 := by
  obtain ⟨pad, hpad⟩ := bytes_padded (Nat.lt_of_succ_lt hn) s
  obtain ⟨k, rfl⟩ : ∃ k, n = k + 2 := ⟨n - 2, by omega⟩
  rw [first, hpad]
  cases s with
  | nil => rfl
  | cons b s => rfl

/-- Only the string at the source counts for `snprintf`. -/
@[simp] theorem ofStr_cstr (n : Nat) (s : List UInt8) : ofStr n (cstr s) = ofStr n s := by
  simp [ofStr]

end CharArray

/-- The value of a `char[n]` that is kept NUL-terminated: a string without a NUL that leaves room
    for one. -/
structure CString (n : Nat) where
  val : List UInt8
  noNul : 0 ∉ val
  short : val.length < n
deriving DecidableEq

namespace CString

/-- The empty string, `buffer[0] = '\0'`. -/
def empty (n : Nat) [NeZero n] : CString n := ⟨[], by simp, Nat.pos_of_neZero n⟩

/-- `snprintf(dst, n, "%s", s)`: the string at `s`, cut to `n - 1` bytes. -/
def ofStr (n : Nat) [NeZero n] (s : List UInt8) : CString n :=
  ⟨(cstr s).take (n - 1), fun h => zero_notMem_cstr s (List.mem_of_mem_take h), by
    have := Nat.pos_of_neZero n
    rw [List.length_take]; omega⟩

@[ext] protected theorem ext {n : Nat} {a b : CString n} (h : a.val = b.val) : a = b := by
  cases a; cases b; cases h; rfl

@[simp] theorem cstr_val {n : Nat} (s : CString n) : cstr s.val = s.val := cstr_eq_self s.noNul

/-- A string that is kept in an array of the same size is copied whole. -/
theorem cstr_ofStr_val {n : Nat} (s : CString n) : cstr (CharArray.ofStr n s.val).bytes = s.val := by
  rw [CharArray.cstr_ofStr (Nat.zero_lt_of_lt s.short), cstr_val]
  exact List.take_of_length_le (Nat.le_pred_of_lt s.short)

/-- A string that fits is copied whole. -/
theorem val_ofStr {n : Nat} [NeZero n] {s : List UInt8} (h0 : 0 ∉ s) (hs : s.length < n) :
    (ofStr n s).val = s := by
  simp only [ofStr, cstr_eq_self h0]
  exact List.take_of_length_le (by omega)

end CString
