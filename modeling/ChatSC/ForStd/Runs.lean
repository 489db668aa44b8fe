import Mathlib.Data.List.Chain
import Mathlib.Data.List.DropRight

/-!
# Runs of a list

`replaceRuns p replacement xs` puts `replacement` in the place of every longest run of items with `p`,
as `s.replace(/[..]+/g, replacement)` does; `strip p xs` takes the items with `p` off both ends.  A
single item in the place of every run leaves no two items with `p` in a row
(`isChain_replaceRuns`).
-/

namespace Runs

variable {α : Type*} {p : α → Bool} {replacement xs : List α} {x y : α}

/-- `replacement` in the place of every longest run of items with `p`. -/
def replaceRuns (p : α → Bool) (replacement : List α) : List α → List α
  | [] => []
  | x :: xs =>
    if p x then
      -- the run ends with its last item
      if xs.head?.any p then replaceRuns p replacement xs
      else replacement ++ replaceRuns p replacement xs
    else x :: replaceRuns p replacement xs

/-- The list without the items with `p` at its two ends. -/
def strip (p : α → Bool) (xs : List α) : List α := (xs.dropWhile p).rdropWhile p

example : replaceRuns (· < 3) [7] [1, 2, 5, 1, 6, 2, 2] = [7, 5, 7, 6, 7] := by decide

/-! ## Runs -/

/-- An item that is left is of the replacement, or an item without `p`. -/
theorem mem_replaceRuns (h : x ∈ replaceRuns p replacement xs) :
    x ∈ replacement ∨ x ∈ xs ∧ p x = false := by
  induction xs with
  | nil => cases h
  | cons y xs ih =>
    unfold replaceRuns at h
    split at h
    · split at h
      -- inside a run nothing is put in, at its end the replacement is
      · exact (ih h).imp_right fun hx => ⟨List.mem_cons_of_mem y hx.1, hx.2⟩
      · rcases List.mem_append.mp h with h | h
        · exact Or.inl h
        · exact (ih h).imp_right fun hx => ⟨List.mem_cons_of_mem y hx.1, hx.2⟩
    · rename_i hy
      rcases List.mem_cons.mp h with rfl | h
      · exact Or.inr ⟨List.mem_cons_self, Bool.not_eq_true _ ▸ hy⟩
      · exact (ih h).imp_right fun hx => ⟨List.mem_cons_of_mem y hx.1, hx.2⟩

/-- A list that starts with no run starts as before. -/
theorem head?_replaceRuns (h : xs.head?.any p = false) :
    (replaceRuns p replacement xs).head? = xs.head? := by
  cases xs with
  | nil => rfl
  | cons x xs =>
    have hx : p x = false := by simpa using h
    simp [replaceRuns, hx]

/-- One item in the place of every run: no two items with `p` are next to each other. -/
theorem isChain_replaceRuns (p : α → Bool) (x : α) (xs : List α) :
    (replaceRuns p [x] xs).IsChain fun y z => p y = true → p z = false := by
  induction xs with
  | nil => exact List.isChain_nil
  | cons y xs ih =>
    unfold replaceRuns
    split
    · split
      · exact ih
      · rename_i hend
        -- what follows the replacement is the item that ended the run
        have hfirst : (replaceRuns p [x] xs).head? = xs.head? :=
          head?_replaceRuns (Bool.not_eq_true _ ▸ hend)
        refine List.isChain_cons.mpr ⟨fun z hz _ => ?_, ih⟩
        have hz' : xs.head? = some z := hfirst ▸ hz
        simpa [hz'] using hend
    · rename_i hy
      exact List.isChain_cons.mpr ⟨fun z _ h => absurd h hy, ih⟩

/-- Two items that are next to each other somewhere are related. -/
theorem rel_of_isInfix {R : α → α → Prop} (h : xs.IsChain R) (hxs : [x, y] <:+: xs) : R x y := by
  obtain ⟨before, after, rfl⟩ := hxs
  exact List.isChain_pair.mp h.left_of_append.right_of_append

/-! ## Ends -/

theorem isInfix_strip (p : α → Bool) (xs : List α) : strip p xs <:+: xs :=
  List.IsInfix.trans ⟨[], List.rdropWhile_prefix p (xs.dropWhile p)⟩
    (List.dropWhile_suffix p).isInfix

/-- What `strip` leaves starts with an item without `p`. -/
theorem head?_strip (h : (strip p xs).head? = some x) : p x = false := by
  have hstart : [x] <+: xs.dropWhile p :=
    (List.singleton_prefix_iff_head?_eq_some.mpr h).trans (List.rdropWhile_prefix p _)
  have hfirst := List.head?_dropWhile_not p xs
  rwa [List.singleton_prefix_iff_head?_eq_some.mp hstart] at hfirst

end Runs
