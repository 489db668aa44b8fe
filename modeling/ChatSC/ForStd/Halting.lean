import Mathlib.Data.Set.Finite.Basic

/-!
# Runs that come to an end

A machine takes a step for each item of an unending sequence of inputs, and `stateAfter` is where it
is after the first `n` of them.  `Progressing` says that a state that is not active stays so, that
one that is stuck stays so, and that every other step uses something up.  Then a run is active only
finitely often exactly when it is never stuck (`finite_active_iff`), and if it is not, then for no
more steps than it had to use up at its start (`not_active_stateAfter`).
-/

namespace Halting

variable {σ ι : Type*}

/-- The state after the first `n` inputs. -/
def stateAfter (step : σ → ι → σ) (inputs : ℕ → ι) (s : σ) : ℕ → σ
  | 0 => s
  | n + 1 => step (stateAfter step inputs s n) (inputs n)

/-- Under inputs with `ok`, a step from an active state that is not stuck makes it smaller, or ends
    its activity. -/
structure Progressing (step : σ → ι → σ) (ok : ι → Prop) (active stuck : σ → Prop)
    (measure : σ → ℕ) : Prop where
  active_of_step : ∀ s i, active (step s i) → active s
  stuck_step : ∀ s i, ok i → stuck s → stuck (step s i)
  active_of_stuck : ∀ s, stuck s → active s
  decreases : ∀ s i, ok i → active s → ¬ stuck s → active (step s i) →
    measure (step s i) < measure s

namespace Progressing

variable {step : σ → ι → σ} {ok : ι → Prop} {active stuck : σ → Prop} {measure : σ → ℕ}
  {inputs : ℕ → ι} {s : σ} {m n : ℕ}

/-- What is active has always been. -/
theorem active_of_le (h : Progressing step ok active stuck measure)
    (hn : active (stateAfter step inputs s n)) (hmn : m ≤ n) :
    active (stateAfter step inputs s m) := by
  induction n, hmn using Nat.le_induction with
  | base => exact hn
  | succ n _ ih => exact ih (h.active_of_step _ _ hn)

/-- What is stuck stays stuck. -/
theorem stuck_of_le (h : Progressing step ok active stuck measure) (hok : ∀ n, ok (inputs n))
    (hm : stuck (stateAfter step inputs s m)) (hmn : m ≤ n) :
    stuck (stateAfter step inputs s n) := by
  induction n, hmn using Nat.le_induction with
  | base => exact hm
  | succ n _ ih => exact h.stuck_step _ _ (hok n) ih

/-- A run that is active and not stuck has used up something in every step. -/
theorem measure_add_le (h : Progressing step ok active stuck measure) (hok : ∀ n, ok (inputs n))
    (hstuck : ∀ n, ¬ stuck (stateAfter step inputs s n))
    (hn : active (stateAfter step inputs s n)) :
    measure (stateAfter step inputs s n) + n ≤ measure s := by
  induction n with
  | zero => exact Nat.le_refl _
  | succ n ih =>
    have hbefore : active (stateAfter step inputs s n) := h.active_of_step _ _ hn
    have hlt : measure (stateAfter step inputs s (n + 1)) < measure (stateAfter step inputs s n) :=
      h.decreases _ _ (hok n) hbefore (hstuck n) hn
    have hle := ih hbefore
    omega

/-- A run that is never stuck comes to an end in time. -/
theorem not_active_stateAfter (h : Progressing step ok active stuck measure)
    (hok : ∀ n, ok (inputs n)) (hstuck : ∀ n, ¬ stuck (stateAfter step inputs s n))
    (hn : measure s < n) : ¬ active (stateAfter step inputs s n) := by
  intro hactive
  have hle := h.measure_add_le hok hstuck hactive
  omega

/-- A run that is stuck once is active for ever. -/
theorem active_of_stuck_once (h : Progressing step ok active stuck measure)
    (hok : ∀ n, ok (inputs n)) (hm : stuck (stateAfter step inputs s m)) (n : ℕ) :
    active (stateAfter step inputs s n) := by
  have hlater : stuck (stateAfter step inputs s (max m n)) :=
    h.stuck_of_le hok hm (Nat.le_max_left m n)
  exact h.active_of_le (h.active_of_stuck _ hlater) (Nat.le_max_right m n)

/-- A run is active only finitely often exactly when it is never stuck. -/
theorem finite_active_iff (h : Progressing step ok active stuck measure)
    (hok : ∀ n, ok (inputs n)) :
    {n | active (stateAfter step inputs s n)}.Finite ↔
      ∀ n, ¬ stuck (stateAfter step inputs s n) := by
  constructor
  · intro hfinite m hm
    obtain ⟨n, hn⟩ := hfinite.exists_notMem
    exact hn (h.active_of_stuck_once hok hm n)
  · intro hstuck
    refine (Set.finite_lt_nat (measure s + 1)).subset fun n hn => ?_
    by_contra hle
    exact h.not_active_stateAfter hok hstuck (Nat.lt_of_succ_le (Nat.not_lt.mp hle)) hn

end Progressing

end Halting
