import Mathlib.Data.List.Rotate

/-!
# Attempts in order

Candidates are tried one after the other until one succeeds.  `attempts` is the list of those that are
tried, with the success that ends it: a prefix of the candidates (`attempts_prefix`) that stops at
their first success (`attempts_eq_some`), and all of them when there is none (`attempts_eq_none`).

`grid` is an order of all pairs of two wheels: a whole turn of the second one for each position of the
first, where every turn of the second starts wherever the last one has ended.
-/

namespace Attempts

variable {α β : Type*}

/-- The candidates that are tried, and the success that ends the attempts. -/
def attempts (ask : α → Option β) : List α → List α × Option β
  | [] => ([], none)
  | x :: xs =>
    match ask x with
    | some y => ([x], some y)
    | none => (x :: (attempts ask xs).1, (attempts ask xs).2)

variable {ask : α → Option β} {xs ys : List α} {y : β}

theorem attempts_cons_of_none {x : α} (h : ask x = none) :
    attempts ask (x :: xs) = (x :: (attempts ask xs).1, (attempts ask xs).2) := by
  rw [attempts, h]

theorem attempts_cons_of_some {x : α} (h : ask x = some y) :
    attempts ask (x :: xs) = ([x], some y) := by
  rw [attempts, h]

/-- What is tried is a prefix of the candidates. -/
theorem attempts_prefix (ask : α → Option β) (xs : List α) : (attempts ask xs).1 <+: xs := by
  induction xs with
  | nil => exact List.prefix_refl _
  | cons x xs ih =>
    cases h : ask x with
    | none =>
      rw [attempts_cons_of_none h]
      exact List.cons_prefix_cons.mpr ⟨rfl, ih⟩
    | some y =>
      rw [attempts_cons_of_some h]
      exact List.cons_prefix_cons.mpr ⟨rfl, List.nil_prefix⟩

/-- Without a success everything is tried, and nothing succeeds. -/
theorem attempts_eq_none : (attempts ask xs).2 = none ↔
    (attempts ask xs).1 = xs ∧ ∀ x ∈ xs, ask x = none := by
  induction xs with
  | nil => simp [attempts]
  | cons x xs ih =>
    cases h : ask x with
    | none =>
      rw [attempts_cons_of_none h]
      simp only [ih, List.cons.injEq, true_and, List.forall_mem_cons, h]
    | some y =>
      rw [attempts_cons_of_some h]
      simp [h]

/-- There is no success exactly when nothing succeeds. -/
theorem attempts_snd_eq_none : (attempts ask xs).2 = none ↔ ∀ x ∈ xs, ask x = none := by
  refine ⟨fun h => (attempts_eq_none.mp h).2, fun hall => ?_⟩
  induction xs with
  | nil => rfl
  | cons x xs ih =>
    obtain ⟨hx, hxs⟩ := List.forall_mem_cons.mp hall
    rw [attempts_cons_of_none hx]
    exact ih hxs

/-- A success is that of the last attempt, and the first of all. -/
theorem attempts_eq_some (h : (attempts ask xs).2 = some y) :
    ∃ before x, (attempts ask xs).1 = before ++ [x] ∧ (∀ z ∈ before, ask z = none) ∧
      ask x = some y := by
  induction xs with
  | nil => cases h
  | cons x xs ih =>
    cases hx : ask x with
    | none =>
      rw [attempts_cons_of_none hx] at h ⊢
      obtain ⟨before, z, htried, hbefore, hz⟩ := ih h
      refine ⟨x :: before, z, by rw [htried]; rfl, ?_, hz⟩
      exact List.forall_mem_cons.mpr ⟨hx, hbefore⟩
    | some y' =>
      rw [attempts_cons_of_some hx] at h ⊢
      obtain rfl : y' = y := Option.some.inj h
      exact ⟨[], x, rfl, nofun, hx⟩

/-- After candidates without a success the attempts go on. -/
theorem attempts_append_of_none (h : (attempts ask xs).2 = none) :
    attempts ask (xs ++ ys) = (xs ++ (attempts ask ys).1, (attempts ask ys).2) := by
  obtain ⟨-, hall⟩ := attempts_eq_none.mp h
  clear h
  induction xs with
  | nil => rfl
  | cons x xs ih =>
    obtain ⟨hx, hxs⟩ := List.forall_mem_cons.mp hall
    rw [List.cons_append, attempts_cons_of_none hx, ih hxs]
    rfl

/-- After a success there are no more attempts. -/
theorem attempts_append_of_some (h : (attempts ask xs).2 = some y) :
    attempts ask (xs ++ ys) = attempts ask xs := by
  induction xs with
  | nil => cases h
  | cons x xs ih =>
    cases hx : ask x with
    | none =>
      rw [attempts_cons_of_none hx] at h
      rw [List.cons_append, attempts_cons_of_none hx, attempts_cons_of_none hx, ih h]
    | some y' => rw [List.cons_append, attempts_cons_of_some hx, attempts_cons_of_some hx]

/-! ## Wheels -/

/-- A whole turn of a wheel with `n` positions. -/
def turn (n start : Nat) : List Nat := (List.range n).map fun i => (start + i) % n

/-- A turn is the positions in order, rotated. -/
theorem turn_eq_rotate (n start : Nat) : turn n start = (List.range n).rotate start := by
  apply List.ext_getElem
  · simp [turn]
  · intro i hi hi'
    rw [List.getElem_rotate]
    simp [turn, Nat.add_comm]

theorem perm_turn (n start : Nat) : (turn n start).Perm (List.range n) := by
  rw [turn_eq_rotate n start]
  exact List.rotate_perm _ _

theorem nodup_turn (n start : Nat) : (turn n start).Nodup :=
  (perm_turn n start).nodup_iff.mpr List.nodup_range

theorem mem_turn {n start i : Nat} : i ∈ turn n start ↔ i < n := by
  rw [(perm_turn n start).mem_iff, List.mem_range]

/-- What holds of all positions of a turn holds of all positions. -/
theorem forall_mem_turn {n start : Nat} {P : Nat → Prop} :
    (∀ i ∈ List.range n, P ((start + i) % n)) ↔ ∀ i < n, P i := by
  have hturn : (∀ i ∈ turn n start, P i) ↔ ∀ i ∈ List.range n, P ((start + i) % n) := by
    rw [turn, List.forall_mem_map]
  rw [← hturn]
  simp only [mem_turn]

/-- Turn `i` of the second wheel, at position `i` of the turn of the first one. -/
def row (n m first second i : Nat) : List (Nat × Nat) :=
  (turn m ((second + i * (m - 1)) % m)).map fun j => ((first + i) % n, j)

/-- All pairs, from a position of each wheel on. -/
def grid (n m first second : Nat) : List (Nat × Nat) :=
  (List.range n).flatMap (row n m first second)

example : grid 2 3 1 2 = [(1, 2), (1, 0), (1, 1), (0, 1), (0, 2), (0, 0)] := by decide

section Grid

variable {n m first second : Nat}

theorem mem_row {i : Nat} {x : Nat × Nat} :
    x ∈ row n m first second i ↔ x.1 = (first + i) % n ∧ x.2 < m := by
  rw [row, List.mem_map]
  constructor
  · rintro ⟨j, hj, rfl⟩
    exact ⟨rfl, mem_turn.mp hj⟩
  · rintro ⟨hfst, hsnd⟩
    exact ⟨x.2, mem_turn.mpr hsnd, Prod.ext hfst.symm rfl⟩

/-- All pairs are in the grid. -/
theorem mem_grid {x : Nat × Nat} :
    x ∈ grid n m first second ↔ x.1 < n ∧ x.2 < m := by
  have hturn : (∃ i ∈ List.range n, x.1 = (first + i) % n) ↔ x.1 < n := by
    have hmem : x.1 ∈ turn n first ↔ x.1 < n := mem_turn
    rw [← hmem, turn, List.mem_map]
    simp only [eq_comm]
  rw [← hturn, grid, List.mem_flatMap]
  simp only [mem_row, ← and_assoc]
  exact exists_and_right

/-- No pair is there twice. -/
theorem nodup_grid : (grid n m first second).Nodup := by
  rw [grid, List.nodup_flatMap]
  constructor
  · intro i _
    exact (nodup_turn _ _).map fun j k h => (Prod.mk.inj h).2
  · -- the rows belong to different positions of the first wheel
    have hturn : (List.range n).Pairwise fun i j => (first + i) % n ≠ (first + j) % n := by
      have hnodup := nodup_turn n first
      rwa [turn, List.Nodup, List.pairwise_map] at hnodup
    refine hturn.imp fun hne x hx hx' => ?_
    exact hne ((mem_row.mp hx).1.symm.trans (mem_row.mp hx').1)

end Grid

end Attempts
