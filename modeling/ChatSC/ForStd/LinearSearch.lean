import Mathlib.Data.Finset.Card
import Mathlib.Order.Interval.Finset.Nat

/-!
# Counting up to a number

The loop `while (p(n)) n += 1`, with a bound on its rounds (`search`).  It ends at the least number
from `n` on that does not have `p` (`search_eq_some_iff`).  Where the numbers are names, different
numbers different ones, and `p` says that a name is one of finitely many, there is such a number
(`exists_first_free`), and it is not beyond the number of these names.
-/

namespace LinearSearch

variable {p : Nat → Bool} {n k : Nat}

/-- `while (p(n)) n += 1`: where it ends, `none` after so many rounds. -/
def search (p : Nat → Bool) : Nat → Nat → Option Nat
  | 0, _ => none
  | rounds + 1, n => if p n then search p rounds (n + 1) else some n

example : search (· ∈ [1, 2, 4]) 3 1 = some 3 ∧ search (· ∈ [1, 2, 4]) 2 1 = none := by decide

/-- From `n` on, `k` is the first number without `p`. -/
structure FirstWithout (p : Nat → Bool) (n k : Nat) : Prop where
  le : n ≤ k
  holds_not : p k = false
  holds : ∀ j, n ≤ j → j < k → p j = true

/-- The loop ends at the first number without `p`, when the rounds suffice. -/
theorem search_eq_some_iff {rounds : Nat} :
    search p rounds n = some k ↔ FirstWithout p n k ∧ k < n + rounds := by
  induction rounds generalizing n with
  | zero =>
    refine iff_of_false (fun h => nomatch h) fun h => ?_
    have hle := h.1.le
    omega
  | succ rounds ih =>
    rw [search]
    split
    · rename_i hn
      rw [ih]
      constructor
      · rintro ⟨h, hlt⟩
        refine ⟨⟨Nat.le_of_succ_le h.le, h.holds_not, fun j hj hjk => ?_⟩, by omega⟩
        -- the number of this round, or one of a later round
        rcases Nat.eq_or_lt_of_le hj with rfl | hj
        · exact hn
        · exact h.holds j hj hjk
      · rintro ⟨h, hlt⟩
        have hne : n ≠ k := by
          rintro rfl
          exact absurd (hn.symm.trans h.holds_not) (by decide)
        have hle := h.le
        exact ⟨⟨by omega, h.holds_not, fun j hj => h.holds j (by omega)⟩, by omega⟩
    · rename_i hn
      constructor
      · intro h
        obtain rfl : n = k := Option.some.inj h
        have hnot : p n = false := by simpa using hn
        exact ⟨⟨Nat.le_refl n, hnot, fun j hj hlt => by omega⟩, by omega⟩
      · rintro ⟨h, -⟩
        congr 1
        by_contra hne
        have hle := h.le
        exact hn (h.holds n (Nat.le_refl n) (by omega))

/-- Of finitely many names not all numbers are one. -/
theorem exists_first_free {α : Type*} [DecidableEq α] (taken : Finset α) {name : Nat → α}
    (hname : Function.Injective name) :
    ∃ k ≤ taken.card, FirstWithout (fun n => name n ∈ taken) 0 k := by
  have hfree : ∃ k ≤ taken.card, name k ∉ taken := by
    by_contra hall
    push Not at hall
    -- one more number than there are names
    have hsub : (Finset.range (taken.card + 1)).image name ⊆ taken := by
      intro x hx
      obtain ⟨k, hk, rfl⟩ := Finset.mem_image.mp hx
      exact hall k (Nat.le_of_lt_succ (Finset.mem_range.mp hk))
    have hcard := Finset.card_le_card hsub
    rw [Finset.card_image_of_injective _ hname, Finset.card_range] at hcard
    omega
  obtain ⟨k, hk, hleast⟩ : ∃ k, (k ≤ taken.card ∧ name k ∉ taken) ∧
      ∀ j < k, ¬ (j ≤ taken.card ∧ name j ∉ taken) :=
    ⟨Nat.find hfree, Nat.find_spec hfree, fun _ => Nat.find_min hfree⟩
  refine ⟨k, hk.1, Nat.zero_le k, decide_eq_false hk.2, fun j _ hjk => ?_⟩
  have hj := hleast j hjk
  push Not at hj
  exact decide_eq_true (hj (by omega))

end LinearSearch
