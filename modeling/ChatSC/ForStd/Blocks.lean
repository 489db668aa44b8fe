import Mathlib.Data.List.Basic

/-!
# Blocks of a list

`blocks n xs` are the whole blocks of `n` elements that a list starts with, and `rest n xs` is what is
left, too short for a block.  A list is taken apart in one way only (`blocks_flatten_append`), and
what comes behind it first completes the rest (`blocks_append_of_eq`).  `upTo p xs` ends with the
first element that meets `p`.
-/

namespace Blocks

variable {α : Type*}

/-- The whole blocks of `n` elements, in order. -/
def blocks (n : Nat) (xs : List α) : List (List α) :=
  (List.range (xs.length / n)).map fun i => (xs.drop (n * i)).take n

/-- What comes after the last whole block. -/
def rest (n : Nat) (xs : List α) : List α := xs.drop (n * (xs.length / n))

example : blocks 2 [1, 2, 3, 4, 5] = [[1, 2], [3, 4]] ∧ rest 2 [1, 2, 3, 4, 5] = [5] := by decide

variable {n : Nat} {xs ys : List α}

theorem blocks_of_lt (h : xs.length < n) : blocks n xs = [] := by
  rw [blocks, Nat.div_eq_of_lt h]
  rfl

theorem rest_of_lt (h : xs.length < n) : rest n xs = xs := by
  rw [rest, Nat.div_eq_of_lt h]
  rfl

theorem length_append_div (hn : 0 < n) {block : List α} (hblock : block.length = n) :
    (block ++ xs).length / n = xs.length / n + 1 := by
  rw [List.length_append, hblock, Nat.add_comm, Nat.add_div_right _ hn]

theorem drop_append_block {block : List α} (hblock : block.length = n) (i : Nat) :
    (block ++ xs).drop (n * (i + 1)) = xs.drop (n * i) := by
  rw [Nat.mul_succ, Nat.add_comm, ← hblock, List.drop_length_add_append]

/-- The first block comes first. -/
theorem blocks_cons (hn : 0 < n) {block : List α} (hblock : block.length = n) :
    blocks n (block ++ xs) = block :: blocks n xs := by
  rw [blocks, length_append_div hn hblock, List.range_succ_eq_map, List.map_cons, List.map_map,
    Nat.mul_zero, List.drop_zero, List.take_left' hblock]
  simp only [Function.comp_def, Nat.succ_eq_add_one, drop_append_block hblock]
  rfl

theorem rest_cons (hn : 0 < n) {block : List α} (hblock : block.length = n) :
    rest n (block ++ xs) = rest n xs := by
  rw [rest, length_append_div hn hblock, drop_append_block hblock, rest]

/-- Blocks are as long as they are said to be. -/
theorem length_of_mem_blocks {block : List α} (h : block ∈ blocks n xs) : block.length = n := by
  obtain ⟨i, hi, rfl⟩ := List.mem_map.mp h
  have hle : n * (i + 1) ≤ n * (xs.length / n) := Nat.mul_le_mul_left n (List.mem_range.mp hi)
  have htotal := Nat.mul_div_le xs.length n
  rw [Nat.mul_succ] at hle
  rw [List.length_take, List.length_drop]
  omega

theorem length_rest : (rest n xs).length = xs.length % n := by
  rw [rest, List.length_drop, Nat.mod_eq_sub_mul_div]

/-- The blocks and the rest are the list. -/
theorem flatten_blocks_append_rest (n : Nat) (xs : List α) :
    (blocks n xs).flatten ++ rest n xs = xs := by
  have hprefix (count : Nat) :
      ((List.range count).map fun i => (xs.drop (n * i)).take n).flatten ++ xs.drop (n * count) =
        xs := by
    induction count with
    | zero => simp
    | succ count ih =>
      have hblock : (xs.drop (n * count)).take n ++ xs.drop (n * (count + 1)) =
          xs.drop (n * count) := by
        rw [Nat.mul_succ, ← List.drop_drop]
        exact List.take_append_drop _ _
      rw [List.range_succ, List.map_append, List.flatten_append, List.append_assoc]
      simp only [List.map_cons, List.map_nil, List.flatten_cons, List.flatten_nil, List.append_nil]
      rw [hblock, ih]
  exact hprefix _

/-- Whole blocks at the front of a list are its first ones. -/
theorem blocks_flatten_append_any (hn : 0 < n) {bs : List (List α)} (hbs : ∀ b ∈ bs, b.length = n) :
    blocks n (bs.flatten ++ xs) = bs ++ blocks n xs ∧ rest n (bs.flatten ++ xs) = rest n xs := by
  induction bs with
  | nil => exact ⟨rfl, rfl⟩
  | cons b bs ih =>
    obtain ⟨hb, hbs⟩ := List.forall_mem_cons.mp hbs
    obtain ⟨hblocks, hrest⟩ := ih hbs
    rw [List.flatten_cons, List.append_assoc, blocks_cons hn hb, rest_cons hn hb, hblocks, hrest]
    exact ⟨rfl, rfl⟩

/-- A list is taken apart into blocks and a rest in one way. -/
theorem blocks_flatten_append {bs : List (List α)} (hbs : ∀ b ∈ bs, b.length = n)
    (hxs : xs.length < n) : blocks n (bs.flatten ++ xs) = bs ∧ rest n (bs.flatten ++ xs) = xs := by
  obtain ⟨hblocks, hrest⟩ := blocks_flatten_append_any (Nat.zero_lt_of_lt hxs) hbs
  rw [hblocks, hrest, blocks_of_lt hxs, rest_of_lt hxs, List.append_nil]
  exact ⟨rfl, rfl⟩

/-- What does not complete the rest belongs to it. -/
theorem blocks_append_of_lt (h : (rest n xs).length + ys.length < n) :
    blocks n (xs ++ ys) = blocks n xs ∧ rest n (xs ++ ys) = rest n xs ++ ys := by
  rw [← List.length_append] at h
  have happend : xs ++ ys = (blocks n xs).flatten ++ (rest n xs ++ ys) := by
    rw [← List.append_assoc, flatten_blocks_append_rest]
  have hbs : ∀ b ∈ blocks n xs, b.length = n := fun b hb => length_of_mem_blocks hb
  have hsame := blocks_flatten_append hbs h
  rwa [← happend] at hsame

/-- What completes the rest is the end of the next block. -/
theorem blocks_append_of_eq (hn : 0 < n) (h : (rest n xs).length + ys.length = n) :
    blocks n (xs ++ ys) = blocks n xs ++ [rest n xs ++ ys] ∧ rest n (xs ++ ys) = [] := by
  rw [← List.length_append] at h
  have happend : xs ++ ys = (blocks n xs ++ [rest n xs ++ ys]).flatten ++ [] := by
    rw [List.append_nil, List.flatten_append, List.flatten_singleton, ← List.append_assoc,
      flatten_blocks_append_rest]
  have hbs : ∀ b ∈ blocks n xs ++ [rest n xs ++ ys], b.length = n := by
    intro b hb
    rcases List.mem_append.mp hb with hb | hb
    · exact length_of_mem_blocks hb
    · rwa [List.mem_singleton.mp hb]
  have hnil : ([] : List α).length < n := hn
  have hsame := blocks_flatten_append hbs hnil
  rwa [← happend] at hsame

/-! ## Up to an element -/

/-- The elements up to the first one that meets `p`, with that one. -/
def upTo (p : α → Bool) : List α → List α
  | [] => []
  | x :: xs => if p x then [x] else x :: upTo p xs

/-- Elements that do not meet `p` are passed. -/
theorem upTo_append {p : α → Bool} (h : ∀ x ∈ xs, p x = false) :
    upTo p (xs ++ ys) = xs ++ upTo p ys := by
  induction xs with
  | nil => rfl
  | cons x xs ih =>
    obtain ⟨hx, hxs⟩ := List.forall_mem_cons.mp h
    simp only [List.cons_append, upTo, hx, ih hxs]
    rfl

/-- The first element that meets `p` is the last one. -/
theorem upTo_append_cons {p : α → Bool} (h : ∀ x ∈ xs, p x = false) {x : α} (hx : p x = true) :
    upTo p (xs ++ x :: ys) = xs ++ [x] := by
  rw [upTo_append h, upTo, if_pos hx]

end Blocks
