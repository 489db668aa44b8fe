import Mathlib.Data.List.Induction

/-!
# Runs of an event machine

A machine is a partial step function `step : σ → ε → Option σ`: the event carries every choice
the environment makes, and `none` says that the event cannot happen in that state.  This file
develops runs of such a machine over a list of events:

* `run` is the state after a list of events,
* `Guarded ok` says that every event of the list meets `ok` in the state it is taken in,
* `Along P` says that `P` holds in every state the run passes through.

The rules are `run_invariant` (an invariant of the steps is an invariant of the runs; in
`run_invariant_history` it may speak of the events too),
`run_invariant_of_guarded` (the same for runs whose events meet a condition), `run_decides` (a run
that the first two events admit or refuse) and
`along_iff_guarded` (a condition that is exactly what keeps a property alive).

A service is a machine that answers every call: `call : σ → ι → ο × σ`.  `after` is its state after
a list of calls and `results` are the answers; `simulates` compares two services call by call.
-/

namespace Transition

variable {σ ε : Type*} (step : σ → ε → Option σ)

/-- The state after the events `es`, `none` when one of them is not possible. -/
def run : σ → List ε → Option σ
  | s, [] => some s
  | s, e :: es =>
    match step s e with
    | some s' => run s' es
    | none => none

/-- Every event of the list meets `ok` in the state in which it is taken. -/
def Guarded (ok : σ → ε → Prop) : σ → List ε → Prop
  | _, [] => True
  | s, e :: es => ok s e ∧ ∀ s', step s e = some s' → Guarded ok s' es

/-- `P` holds in every state that the run over the list passes through, both ends included. -/
def Along (P : σ → Prop) : σ → List ε → Prop
  | s, [] => P s
  | s, e :: es => P s ∧ ∀ s', step s e = some s' → Along P s' es

instance Guarded.decidable (ok : σ → ε → Prop) [∀ s e, Decidable (ok s e)] :
    (s : σ) → (es : List ε) → Decidable (Guarded step ok s es)
  | _, [] => inferInstanceAs (Decidable True)
  | s, e :: es =>
    match h : step s e with
    | none =>
      decidable_of_iff (ok s e) ⟨fun hok => ⟨hok, fun _ hs => nomatch h.symm.trans hs⟩, And.left⟩
    | some s' =>
      have := Guarded.decidable ok s' es
      decidable_of_iff (ok s e ∧ Guarded step ok s' es)
        ⟨fun hok => ⟨hok.1, fun _ hs => Option.some.inj (h.symm.trans hs) ▸ hok.2⟩,
          fun hok => ⟨hok.1, hok.2 s' h⟩⟩

variable {step}

@[simp] theorem run_nil (s : σ) : run step s [] = some s := rfl

/-- A run that starts with `e` takes the step `e` first. -/
theorem run_cons_eq_some {s t : σ} {e : ε} {es : List ε} :
    run step s (e :: es) = some t ↔ ∃ s', step s e = some s' ∧ run step s' es = some t := by
  cases h : step s e with
  | none => simp [run, h]
  | some s' => simp [run, h]

/-- A run over two lists is a run over the first, then one over the second. -/
theorem run_append_eq_some {s t : σ} {es fs : List ε} :
    run step s (es ++ fs) = some t ↔
      ∃ m, run step s es = some m ∧ run step m fs = some t := by
  induction es generalizing s with
  | nil => simp
  | cons e es ih =>
    simp only [List.cons_append, run_cons_eq_some, ih]
    constructor
    · rintro ⟨s', hs, m, hm, ht⟩
      exact ⟨m, ⟨s', hs, hm⟩, ht⟩
    · rintro ⟨m, ⟨s', hs, hm⟩, ht⟩
      exact ⟨s', hs, m, hm, ht⟩

/-- A run that ends with `e` takes the step `e` last. -/
theorem run_concat_eq_some {s t : σ} {es : List ε} {e : ε} :
    run step s (es ++ [e]) = some t ↔ ∃ m, run step s es = some m ∧ step m e = some t := by
  simp only [run_append_eq_some, run_cons_eq_some, run_nil, Option.some.injEq, exists_eq_right]

/-- A machine whose steps are those of another one under `make`, for the events that `rename` makes
    of the other's, has its runs. -/
theorem run_map_events {τ δ : Type*} {step' : τ → δ → Option τ} {make : τ → σ} {rename : δ → ε}
    (hstep : ∀ t e, step (make t) (rename e) = (step' t e).map make) (t : τ) (es : List δ) :
    run step (make t) (es.map rename) = (run step' t es).map make := by
  induction es generalizing t with
  | nil => rfl
  | cons e es ih =>
    rw [List.map_cons, run, run, hstep]
    cases step' t e with
    | none => rfl
    | some t' => exact ih t'

/-- A machine whose steps are those of another one under `make` has its runs. -/
theorem run_map {τ : Type*} {step' : τ → ε → Option τ} {make : τ → σ}
    (hstep : ∀ t e, step (make t) e = (step' t e).map make) (t : τ) (es : List ε) :
    run step (make t) es = (run step' t es).map make := by
  simpa using run_map_events hstep t es

/-! ## Invariants -/

/-- What holds at the start and is kept by every step that meets `ok` holds at the end of every
    run whose events meet `ok`. -/
theorem run_invariant_of_guarded {ok : σ → ε → Prop} {Inv : σ → Prop}
    (hkeep : ∀ s e s', Inv s → ok s e → step s e = some s' → Inv s')
    {s t : σ} {es : List ε} (h0 : Inv s) (hok : Guarded step ok s es)
    (hrun : run step s es = some t) : Inv t := by
  induction es generalizing s with
  | nil => cases hrun; exact h0
  | cons e es ih =>
    obtain ⟨s', hs, ht⟩ := run_cons_eq_some.mp hrun
    exact ih (hkeep s e s' h0 hok.1 hs) (hok.2 s' hs) ht

/-- What holds at the start and is kept by every step holds at the end of every run. -/
theorem run_invariant {Inv : σ → Prop}
    (hkeep : ∀ s e s', Inv s → step s e = some s' → Inv s')
    {s t : σ} {es : List ε} (h0 : Inv s) (hrun : run step s es = some t) : Inv t := by
  induction es generalizing s with
  | nil => cases hrun; exact h0
  | cons e es ih =>
    obtain ⟨s', hs, ht⟩ := run_cons_eq_some.mp hrun
    exact ih (hkeep s e s' h0 hs) ht

/-- A run that is decided by its second event at the latest: what is admitted stays so, and so does
    what is refused. -/
theorem run_decides {Admitted Refused : σ → Prop} {Checking : ε → σ → Prop}
    {Passes : List ε → Prop} {s t : σ} {es : List ε}
    (hadmitted : ∀ s e s', Admitted s → step s e = some s' → Admitted s')
    (hrefused : ∀ s e s', Refused s → step s e = some s' → Refused s')
    (hfirst : ∀ e s', step s e = some s' →
      Checking e s' ∨ Refused s' ∧ ∀ rest, ¬ Passes (e :: rest))
    (hsecond : ∀ e s' e' s'', Checking e s' → step s' e' = some s'' →
      (Admitted s'' ∧ ∀ rest, Passes (e :: e' :: rest)) ∨
        (Refused s'' ∧ ∀ rest, ¬ Passes (e :: e' :: rest)))
    (hrun : run step s es = some t) :
    t = s ∨ (∃ e, Checking e t) ∨ (Admitted t ∧ Passes es) ∨ (Refused t ∧ ¬ Passes es) := by
  cases es with
  | nil =>
    cases hrun
    exact .inl rfl
  | cons e es =>
    obtain ⟨s', hs', hrest⟩ := run_cons_eq_some.mp hrun
    -- the first event has refused, or all hangs on the second
    rcases hfirst e s' hs' with hchecking | ⟨hout, hfails⟩
    · cases es with
      | nil =>
        cases hrest
        exact .inr (.inl ⟨e, hchecking⟩)
      | cons e' es =>
        obtain ⟨s'', hs'', hrest⟩ := run_cons_eq_some.mp hrest
        rcases hsecond e s' e' s'' hchecking hs'' with ⟨hin, hpasses⟩ | ⟨hout, hfails⟩
        · exact .inr (.inr (.inl ⟨run_invariant hadmitted hin hrest, hpasses es⟩))
        · exact .inr (.inr (.inr ⟨run_invariant hrefused hout hrest, hfails es⟩))
    · exact .inr (.inr (.inr ⟨run_invariant hrefused hout hrest, hfails es⟩))

/-- An invariant that also speaks of the events so far. -/
theorem run_invariant_history {Inv : List ε → σ → Prop} {s t : σ} {es : List ε}
    (hkeep : ∀ es s' e s'', run step s es = some s' → Inv es s' → step s' e = some s'' →
      Inv (es ++ [e]) s'')
    (h0 : Inv [] s) (hrun : run step s es = some t) : Inv es t := by
  induction es using List.reverseRecOn generalizing t with
  | nil => cases hrun; exact h0
  | append_singleton es e ih =>
    obtain ⟨s', hs', ht⟩ := run_concat_eq_some.mp hrun
    exact hkeep es s' e t hs' (ih hs') ht

/-! ## Guards and properties along a run -/

/-- Events that meet the guard in every state make a guarded run. -/
theorem Guarded.of_forall {ok : σ → ε → Prop} {s : σ} {es : List ε}
    (h : ∀ e ∈ es, ∀ s, ok s e) : Guarded step ok s es := by
  induction es generalizing s with
  | nil => trivial
  | cons e es ih =>
    exact ⟨h e List.mem_cons_self s, fun _ _ => ih fun e he => h e (List.mem_cons_of_mem _ he)⟩

/-- A guarded run after a guarded event. -/
theorem Guarded.cons {ok : σ → ε → Prop} {s s' : σ} {e : ε} {es : List ε} (hok : ok s e)
    (hs : step s e = some s') (h : Guarded step ok s' es) : Guarded step ok s (e :: es) := by
  refine ⟨hok, fun s'' hs'' => ?_⟩
  obtain rfl : s' = s'' := Option.some.inj (hs.symm.trans hs'')
  exact h

/-- Two guards together. -/
theorem Guarded.and {ok ok' : σ → ε → Prop} {s : σ} {es : List ε} (h : Guarded step ok s es)
    (h' : Guarded step ok' s es) : Guarded step (fun s e => ok s e ∧ ok' s e) s es := by
  induction es generalizing s with
  | nil => trivial
  | cons e es ih => exact ⟨⟨h.1, h'.1⟩, fun s' hs => ih (h.2 s' hs) (h'.2 s' hs)⟩

/-- A guarded run splits at every point: the first part is guarded. -/
theorem Guarded.left {ok : σ → ε → Prop} {s : σ} {es fs : List ε}
    (h : Guarded step ok s (es ++ fs)) : Guarded step ok s es := by
  induction es generalizing s with
  | nil => trivial
  | cons e es ih => exact ⟨h.1, fun s' hs => ih (h.2 s' hs)⟩

/-- A guarded run splits at every point: the second part is guarded from the state between. -/
theorem Guarded.right {ok : σ → ε → Prop} {s m : σ} {es fs : List ε}
    (h : Guarded step ok s (es ++ fs)) (hm : run step s es = some m) :
    Guarded step ok m fs := by
  induction es generalizing s with
  | nil => cases hm; exact h
  | cons e es ih =>
    obtain ⟨s', hs, hm'⟩ := run_cons_eq_some.mp hm
    exact ih (h.2 s' hs) hm'

/-- Two guarded runs, one after the other. -/
theorem Guarded.append {ok : σ → ε → Prop} {s m : σ} {es fs : List ε} (h : Guarded step ok s es)
    (hm : run step s es = some m) (h' : Guarded step ok m fs) :
    Guarded step ok s (es ++ fs) := by
  induction es generalizing s with
  | nil => cases hm; exact h'
  | cons e es ih =>
    obtain ⟨s', hs, hm'⟩ := run_cons_eq_some.mp hm
    exact .cons h.1 hs (ih (h.2 s' hs) hm')

/-- One more event is guarded where it meets the guard at the end of the run. -/
theorem guarded_concat_iff {ok : σ → ε → Prop} {s m : σ} {es : List ε} {e : ε}
    (hm : run step s es = some m) :
    Guarded step ok s (es ++ [e]) ↔ Guarded step ok s es ∧ ok m e := by
  induction es generalizing s with
  | nil =>
    obtain rfl : s = m := Option.some.inj hm
    exact ⟨fun h => ⟨trivial, h.1⟩, fun h => ⟨h.2, fun _ _ => trivial⟩⟩
  | cons d es ih =>
    obtain ⟨s', hs', hm'⟩ := run_cons_eq_some.mp hm
    constructor
    · rintro ⟨hd, hrest⟩
      obtain ⟨hes, he⟩ := (ih hm').mp (hrest s' hs')
      exact ⟨.cons hd hs' hes, he⟩
    · rintro ⟨hes, he⟩
      exact .cons hes.1 hs' ((ih hm').mpr ⟨hes.2 s' hs', he⟩)

/-- Where an invariant holds, what it gives of the events that meet `ok` holds of all events of a
    guarded run. -/
theorem Guarded.of_invariant {ok ok' : σ → ε → Prop} {Inv : σ → Prop}
    (hkeep : ∀ s e s', Inv s → ok s e → step s e = some s' → Inv s')
    (hok : ∀ s e, Inv s → ok s e → ok' s e) {s : σ} {es : List ε} (h0 : Inv s)
    (h : Guarded step ok s es) : Guarded step ok' s es := by
  induction es generalizing s with
  | nil => trivial
  | cons e es ih =>
    exact ⟨hok s e h0 h.1, fun s' hs => ih (hkeep s e s' h0 h.1 hs) (h.2 s' hs)⟩

/-- A property along a run holds at its start. -/
theorem Along.head {P : σ → Prop} {s : σ} {es : List ε} (h : Along step P s es) : P s := by
  cases es with
  | nil => exact h
  | cons e es => exact h.1

/-- If steps that meet `ok` keep the invariant, the invariant gives `P`, and a step that does not
    meet `ok` leads out of `P`, then along a run `P` holds exactly when the run is guarded. -/
theorem along_iff_guarded {ok : σ → ε → Prop} {Inv P : σ → Prop}
    (hP : ∀ s, Inv s → P s)
    (hkeep : ∀ s e s', Inv s → ok s e → step s e = some s' → Inv s')
    (hbreak : ∀ s e s', Inv s → ¬ ok s e → step s e = some s' → ¬ P s')
    {s t : σ} {es : List ε} (h0 : Inv s) (hrun : run step s es = some t) :
    Along step P s es ↔ Guarded step ok s es := by
  -- induction on the run
  induction es generalizing s with
  | nil => exact ⟨fun _ => trivial, fun _ => hP s h0⟩
  | cons e es ih =>
    obtain ⟨s', hs, ht⟩ := run_cons_eq_some.mp hrun
    constructor
    · rintro ⟨-, hrest⟩
      -- a step that does not meet the condition would have broken `P`
      have hok : ok s e := by
        by_contra hno
        exact hbreak s e s' h0 hno hs (hrest s' hs).head
      refine ⟨hok, fun s'' hs'' => ?_⟩
      obtain rfl : s' = s'' := Option.some.inj (hs.symm.trans hs'')
      exact (ih (hkeep s e s' h0 hok hs) ht).mp (hrest s' hs)
    · rintro ⟨hok, hrest⟩
      refine ⟨hP s h0, fun s'' hs'' => ?_⟩
      obtain rfl : s' = s'' := Option.some.inj (hs.symm.trans hs'')
      exact (ih (hkeep s e s' h0 hok hs) ht).mpr (hrest s' hs)

/-! ## Notes -/

section Notes

variable {γ : Type*}

/-- The machine that also keeps a note of some of its steps, in their order. -/
def noting (step : σ → ε → Option σ) (note : σ → ε → Option γ) (state : σ × List γ) (e : ε) :
    Option (σ × List γ) :=
  (step state.1 e).map fun s' => (s', state.2 ++ (note state.1 e).toList)

theorem noting_eq_some {note : σ → ε → Option γ} {state state' : σ × List γ} {e : ε} :
    noting step note state e = some state' ↔
      step state.1 e = some state'.1 ∧ state'.2 = state.2 ++ (note state.1 e).toList := by
  rw [noting, Option.map_eq_some_iff]
  constructor
  · rintro ⟨s', hs, rfl⟩
    exact ⟨hs, rfl⟩
  · rintro ⟨hs, hnotes⟩
    exact ⟨state'.1, hs, Prod.ext rfl hnotes.symm⟩

end Notes

/-! ## Services -/

section Service

variable {σ' ι ο : Type*}

/-- The state after a list of calls. -/
def after (call : σ → ι → ο × σ) : σ → List ι → σ
  | s, [] => s
  | s, i :: is => after call (call s i).2 is

/-- The answers to a list of calls. -/
def results (call : σ → ι → ο × σ) : σ → List ι → List ο
  | _, [] => []
  | s, i :: is => (call s i).1 :: results call (call s i).2 is

/-- What every call keeps holds after any list of calls. -/
theorem after_invariant {call : σ → ι → ο × σ} (Inv : σ → Prop)
    (hkeep : ∀ s i, Inv s → Inv (call s i).2) {s : σ} (h0 : Inv s) (is : List ι) :
    Inv (after call s is) := by
  induction is generalizing s with
  | nil => exact h0
  | cons i is ih => exact ih (hkeep s i h0)

/-- If related states answer every admissible call alike and stay related, then two services that
    start in related states answer every list of admissible calls alike and end related. -/
theorem simulates {call : σ → ι → ο × σ} {call' : σ' → ι → ο × σ'} (R : σ → σ' → Prop)
    {ok : ι → Prop}
    (hcall : ∀ s s' i, R s s' → ok i →
      (call s i).1 = (call' s' i).1 ∧ R (call s i).2 (call' s' i).2)
    {s : σ} {s' : σ'} (h0 : R s s') {is : List ι} (hok : ∀ i ∈ is, ok i) :
    results call s is = results call' s' is ∧ R (after call s is) (after call' s' is) := by
  induction is generalizing s s' with
  | nil => exact ⟨rfl, h0⟩
  | cons i is ih =>
    obtain ⟨hres, hR⟩ := hcall s s' i h0 (hok i List.mem_cons_self)
    obtain ⟨hrest, hend⟩ := ih hR (fun j hj => hok j (List.mem_cons_of_mem i hj))
    exact ⟨by simp only [results, hres, hrest], hend⟩

end Service

end Transition
