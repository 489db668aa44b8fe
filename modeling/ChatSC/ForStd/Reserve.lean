import Mathlib.Algebra.BigOperators.Group.Finset.Basic
import Mathlib.Algebra.Order.BigOperators.Group.Finset

/-!
# Space that is set aside

Parties fill a store of limited size.  What a party is going to put in is its claim, and it makes
the claim before it puts anything in.  `Fits` says that what is in the store and all claims together do
not exceed the size; then nobody with a claim finds the store full (`Fits.lt_of_claim`).

It is kept when a party claims what there is room for, when it puts in some of its claim, when it
drops a claim, and when something is taken out.
-/

namespace Reserve

variable {claims claims' : ℕ → ℕ} {n i size used used' : ℕ}

/-- All claims together. -/
def total (n : ℕ) (claims : ℕ → ℕ) : ℕ := ∑ i ∈ Finset.range n, claims i

/-- Only the claims of the parties count. -/
theorem total_congr (h : ∀ j < n, claims' j = claims j) : total n claims' = total n claims :=
  Finset.sum_congr rfl fun j hj => h j (Finset.mem_range.mp hj)

/-- A party without a claim joins. -/
theorem total_succ (h : claims n = 0) : total (n + 1) claims = total n claims := by
  rw [total, Finset.sum_range_succ, h, Nat.add_zero, total]

/-- No claim is larger than all together. -/
theorem le_total (hi : i < n) : claims i ≤ total n claims :=
  Finset.single_le_sum (fun _ _ => Nat.zero_le _) (Finset.mem_range.mpr hi)

/-- One party changes its claim. -/
theorem total_change (hi : i < n) (h : ∀ j, j ≠ i → claims' j = claims j) :
    total n claims' + claims i = total n claims + claims' i := by
  have hmem : i ∈ Finset.range n := Finset.mem_range.mpr hi
  have hrest : ∑ j ∈ (Finset.range n).erase i, claims' j =
      ∑ j ∈ (Finset.range n).erase i, claims j :=
    Finset.sum_congr rfl fun j hj => h j (Finset.ne_of_mem_erase hj)
  rw [total, total, ← Finset.add_sum_erase _ claims' hmem, ← Finset.add_sum_erase _ claims hmem,
    hrest]
  omega

/-- The store has room for what is in it and for all claims. -/
def Fits (size used n : ℕ) (claims : ℕ → ℕ) : Prop := used + total n claims ≤ size

/-- Whoever has a claim finds room. -/
theorem Fits.lt_of_claim (h : Fits size used n claims) (hi : i < n) (hpos : 0 < claims i) :
    used < size := by
  have hle : claims i ≤ total n claims := le_total hi
  unfold Fits at h
  omega

/-- A party claims more, and there is room for that. -/
theorem Fits.claim (hroom : used + total n claims + claims' i ≤ size + claims i) (hi : i < n)
    (h : ∀ j, j ≠ i → claims' j = claims j) : Fits size used n claims' := by
  have hchange := total_change hi h
  unfold Fits
  omega

/-- A party puts in at most what it takes off its claim; it may drop the rest. -/
theorem Fits.put (hfits : Fits size used n claims) (hi : i < n)
    (h : ∀ j, j ≠ i → claims' j = claims j) (hput : used' + claims' i ≤ used + claims i) :
    Fits size used' n claims' := by
  have hchange := total_change hi h
  unfold Fits at hfits ⊢
  omega

/-- Something is taken out. -/
theorem Fits.take (h : Fits size used n claims) (hle : used' ≤ used) : Fits size used' n claims :=
  (Nat.add_le_add_right hle _).trans h

end Reserve
