import Mathlib.Data.List.Infix
import Mathlib.Data.List.TakeWhile

/-!
# Line-oriented text files

The part of the C standard input that reads a text stream piece by piece: `fgets` with its buffer
size, the loop over its results (`lines`), and the `%<width>[...]` and `%<width>s` conversions of
`sscanf` (`scanSpan`).  A stream is the list of bytes that are still to be read.

`lines` is not a split at newlines: a line that is longer than the buffer comes in several pieces.
The main fact is `lines_append`: what is appended to a stream that ends in a newline is cut into
pieces by itself, whatever stands before it.
-/

namespace Stdio

/-- The newline character. -/
def newline : UInt8 := 10

/-- `isspace` in the "C" locale. -/
def isSpace (b : UInt8) : Bool := b == 32 || (9 ≤ b && b ≤ 13)

/-- Read at most `n` bytes, through the first newline: what was read and what is left. -/
def readLine : Nat → List UInt8 → List UInt8 × List UInt8
  | 0, stream => ([], stream)
  | _ + 1, [] => ([], [])
  | n + 1, b :: stream =>
    if b = newline then ([b], stream)
    else ((b :: (readLine n stream).1), (readLine n stream).2)

/-- `fgets(line, size, stream)`: the bytes stored before the NUL and the rest of the stream;
    `none` is the null pointer that is returned at the end of the stream. -/
def fgets (size : Nat) (stream : List UInt8) : Option (List UInt8 × List UInt8) :=
  if stream = [] then none else some (readLine (size - 1) stream)

/-- `while (fgets(line, size, stream) != NULL)` with a bound on the number of rounds. -/
def linesFuel (size : Nat) : Nat → List UInt8 → List (List UInt8)
  | 0, _ => []
  | fuel + 1, stream =>
    match fgets size stream with
    | none => []
    | some (line, rest) => line :: linesFuel size fuel rest

/-- All the pieces that `fgets` yields until it returns the null pointer. -/
def lines (size : Nat) (stream : List UInt8) : List (List UInt8) :=
  linesFuel size stream.length stream

/-- The conversions `%<width>[set]` and `%<width>s`: the longest run of bytes in the set, of at most
    `width` bytes; a run that is empty does not match. -/
def scanSpan (set : UInt8 → Bool) (width : Nat) (input : List UInt8) :
    Option (List UInt8 × List UInt8) :=
  let item := (input.take width).takeWhile set
  if item = [] then none else some (item, input.drop item.length)

/-! ## What one call reads -/

/-- Reading loses nothing. -/
theorem readLine_append (n : Nat) (stream : List UInt8) :
    (readLine n stream).1 ++ (readLine n stream).2 = stream := by
  induction n generalizing stream with
  | zero => rfl
  | succ n ih =>
    cases stream with
    | nil => rfl
    | cons b stream =>
      simp only [readLine]
      split
      · rfl
      · rw [List.cons_append, ih]

/-- A call with room for a byte makes progress. -/
theorem readLine_rest_length_lt {n : Nat} {stream : List UInt8} (hn : 0 < n) (hs : stream ≠ []) :
    (readLine n stream).2.length < stream.length := by
  have hlen := congrArg List.length (readLine_append n stream)
  have hpos : 0 < (readLine n stream).1.length := by
    obtain ⟨n, rfl⟩ := Nat.exists_eq_succ_of_ne_zero (Nat.ne_of_gt hn)
    obtain ⟨b, stream, rfl⟩ := List.exists_cons_of_ne_nil hs
    simp only [readLine]
    split <;> simp
  rw [List.length_append] at hlen
  omega

/-- A line that fits is read whole, with its newline. -/
theorem readLine_of_fits {body : List UInt8} {n : Nat} (hbody : newline ∉ body)
    (hlen : body.length < n) (rest : List UInt8) :
    readLine n (body ++ newline :: rest) = (body ++ [newline], rest) := by
  induction body generalizing n with
  | nil =>
    obtain ⟨n, rfl⟩ := Nat.exists_eq_succ_of_ne_zero (Nat.ne_of_gt (by simpa using hlen))
    simp [readLine]
  | cons b body ih =>
    have hpos : 0 < n := Nat.lt_of_le_of_lt (Nat.zero_le _) hlen
    obtain ⟨n, rfl⟩ := Nat.exists_eq_succ_of_ne_zero (Nat.ne_of_gt hpos)
    have hb : b ≠ newline := fun hb => hbody (by simp [hb])
    have hrest := ih (fun h => hbody (List.mem_cons_of_mem b h)) (n := n)
      (by simpa using hlen)
    simp only [List.cons_append, readLine, if_neg hb, hrest]

/-- A body without a newline that fills the buffer is read up to the bound. -/
theorem readLine_of_full {body : List UInt8} (hbody : newline ∉ body) (rest : List UInt8) :
    readLine body.length (body ++ rest) = (body, rest) := by
  induction body with
  | nil => rfl
  | cons b body ih =>
    have hb : b ≠ newline := fun hb => hbody (by simp [hb])
    have hrest := ih (fun h => hbody (List.mem_cons_of_mem b h))
    simp only [List.length_cons, List.cons_append, readLine, if_neg hb, hrest]

/-- What is appended after a newline does not change the call that reads before it. -/
theorem readLine_terminated_append {init : List UInt8} (n : Nat) (rest : List UInt8) :
    readLine n (init ++ [newline] ++ rest) =
      ((readLine n (init ++ [newline])).1, (readLine n (init ++ [newline])).2 ++ rest) := by
  induction n generalizing init with
  | zero => rfl
  | succ n ih =>
    cases init with
    | nil => simp [readLine]
    | cons b init =>
      simp only [List.cons_append, readLine]
      split
      · rfl
      · simp only [ih]

/-! ## The loop over a stream -/

/-- A stream in which every line is complete: empty, or with a newline at its end. -/
def Terminated (stream : List UInt8) : Prop := stream = [] ∨ ∃ init, stream = init ++ [newline]

/-- What is left of a complete stream is complete. -/
theorem Terminated.readLine_rest {stream : List UInt8} (h : Terminated stream) (n : Nat) :
    Terminated (readLine n stream).2 := by
  have happ := readLine_append n stream
  rcases h with rfl | ⟨init, hinit⟩
  · exact .inl (List.append_eq_nil_iff.mp happ).2
  · rcases List.eq_nil_or_concat (readLine n stream).2 with hnil | ⟨init', last, hlast⟩
    · exact .inl hnil
    · rw [List.concat_eq_append] at hlast
      rw [hlast, hinit, ← List.append_assoc] at happ
      obtain ⟨-, hl⟩ := List.append_inj' happ rfl
      exact .inr ⟨init', by rw [hlast, hl]⟩

/-- Appending complete text keeps a stream complete. -/
theorem Terminated.append {a b : List UInt8} (ha : Terminated a) (hb : Terminated b) :
    Terminated (a ++ b) := by
  rcases hb with rfl | ⟨init, rfl⟩
  · rwa [List.append_nil]
  · exact .inr ⟨a ++ init, by rw [List.append_assoc]⟩

/-- The bound on the rounds does not matter once it reaches the length of the stream. -/
theorem linesFuel_eq_lines {size : Nat} (hsize : 2 ≤ size) (fuel : Nat) {stream : List UInt8}
    (hfuel : stream.length ≤ fuel) : linesFuel size fuel stream = lines size stream := by
  suffices ∀ n fuel (stream : List UInt8), stream.length ≤ n → stream.length ≤ fuel →
      linesFuel size fuel stream = linesFuel size n stream from
    this stream.length fuel stream (Nat.le_refl _) hfuel
  intro n
  induction n with
  | zero =>
    intro fuel stream hn _
    obtain rfl := List.length_eq_zero_iff.mp (Nat.le_zero.mp hn)
    cases fuel <;> rfl
  | succ n ih =>
    intro fuel stream hn hf
    cases fuel with
    | zero =>
      obtain rfl := List.length_eq_zero_iff.mp (Nat.le_zero.mp hf)
      rfl
    | succ fuel =>
      by_cases hs : stream = []
      · subst hs; rfl
      · have hlt := readLine_rest_length_lt (n := size - 1) (by omega) hs
        simp only [linesFuel, fgets, if_neg hs]
        rw [ih fuel _ (by omega) (by omega)]

@[simp] theorem lines_nil (size : Nat) : lines size [] = [] := rfl

/-- The pieces of a stream that is not empty: one call, then the pieces of the rest. -/
theorem lines_of_ne_nil {size : Nat} (hsize : 2 ≤ size) {stream : List UInt8} (hs : stream ≠ []) :
    lines size stream =
      (readLine (size - 1) stream).1 :: lines size (readLine (size - 1) stream).2 := by
  have hlt := readLine_rest_length_lt (n := size - 1) (by omega) hs
  rw [← linesFuel_eq_lines hsize (stream.length + 1) (Nat.le_succ _)]
  simp only [linesFuel, fgets, if_neg hs]
  rw [linesFuel_eq_lines hsize _ (Nat.le_of_lt hlt)]

/-- Text appended to complete lines is cut by itself. -/
theorem lines_append {size : Nat} (hsize : 2 ≤ size) {a : List UInt8} (ha : Terminated a)
    (b : List UInt8) : lines size (a ++ b) = lines size a ++ lines size b := by
  -- induction on the length of the first part, which shrinks with every call
  suffices ∀ n (a : List UInt8), a.length ≤ n → Terminated a →
      lines size (a ++ b) = lines size a ++ lines size b from this a.length a (Nat.le_refl _) ha
  intro n
  induction n with
  | zero =>
    intro a hn _
    obtain rfl := List.length_eq_zero_iff.mp (Nat.le_zero.mp hn)
    simp
  | succ n ih =>
    intro a hn ha
    rcases ha with rfl | ⟨init, rfl⟩
    · simp
    · have hne : init ++ [newline] ≠ [] := by simp
      have hlt := readLine_rest_length_lt (n := size - 1) (by omega) hne
      have hrest : Terminated (readLine (size - 1) (init ++ [newline])).2 :=
        Terminated.readLine_rest (.inr ⟨init, rfl⟩) _
      rw [lines_of_ne_nil hsize (by simp), readLine_terminated_append, lines_of_ne_nil hsize hne,
        List.cons_append, ih _ (by omega) hrest]

/-- A single line that fits into the buffer is one piece. -/
theorem lines_single {size : Nat} {body : List UInt8} (hbody : newline ∉ body)
    (hlen : body.length + 2 ≤ size) : lines size (body ++ [newline]) = [body ++ [newline]] := by
  rw [lines_of_ne_nil (by omega) (by simp), readLine_of_fits hbody (by omega) []]
  simp

/-! ## Conversions -/

/-- A run that ends before a byte outside the set is matched whole. -/
theorem scanSpan_of_stop {set : UInt8 → Bool} {width : Nat} {item : List UInt8} {b : UInt8}
    (hne : item ≠ []) (hitem : ∀ c ∈ item, set c = true) (hb : set b = false)
    (hlen : item.length ≤ width) (rest : List UInt8) :
    scanSpan set width (item ++ b :: rest) = some (item, b :: rest) := by
  have htake : ((item ++ b :: rest).take width).takeWhile set = item := by
    rw [List.take_append, List.take_of_length_le hlen]
    cases width - item.length with
    | zero =>
      rw [List.take_zero, List.append_nil]
      exact List.takeWhile_eq_self_iff.mpr hitem
    | succ k =>
      rw [List.take_succ_cons, List.takeWhile_append_of_pos hitem, List.takeWhile_cons_of_neg
        (by simp [hb]), List.append_nil]
  simp only [scanSpan, htake, if_neg hne, List.drop_left]

/-- What a conversion matches is not empty, fits its width and lies in the set. -/
theorem scanSpan_eq_some {set : UInt8 → Bool} {width : Nat} {input item rest : List UInt8}
    (h : scanSpan set width input = some (item, rest)) :
    item ≠ [] ∧ item.length ≤ width ∧ (∀ c ∈ item, set c = true) ∧ input = item ++ rest := by
  simp only [scanSpan] at h
  split at h
  · cases h
  · rename_i hne
    obtain ⟨hitem, hrest⟩ := Prod.mk.inj (Option.some.inj h)
    subst hitem
    refine ⟨hne, ?_, fun c hc => List.mem_takeWhile_imp hc, ?_⟩
    · exact Nat.le_trans (List.takeWhile_prefix _).length_le (List.length_take_le _ _)
    · have hpre : (input.take width).takeWhile set <+: input :=
        (List.takeWhile_prefix _).trans (List.take_prefix _ _)
      rw [← hrest]
      exact List.prefix_append_drop hpre

end Stdio
