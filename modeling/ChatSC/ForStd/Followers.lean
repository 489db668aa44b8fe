import Mathlib.Data.List.Basic

/-!
# Items of a list and what follows them

`Followed R next xs` says that every item of `xs` is related to the item after it, where `next` comes
after the last one.  Appending splits it (`followed_append`), and in a list that has it, another end
matters to the last item only (`Followed.next_iff`).
-/

namespace Followers

variable {α : Type*} {R : α → Option α → Prop} {next next' : Option α} {xs ys : List α} {x : α}

/-- Every item is related to the one after it. -/
def Followed (R : α → Option α → Prop) (next : Option α) : List α → Prop
  | [] => True
  | x :: xs => R x (xs.head?.or next) ∧ Followed R next xs

@[simp] theorem followed_nil : Followed R next [] := trivial

@[simp] theorem followed_cons :
    Followed R next (x :: xs) ↔ R x (xs.head?.or next) ∧ Followed R next xs := Iff.rfl

theorem followed_append :
    Followed R next (xs ++ ys) ↔ Followed R (ys.head?.or next) xs ∧ Followed R next ys := by
  induction xs with
  | nil => simp
  | cons x xs ih => rw [List.cons_append, followed_cons, followed_cons, ih, List.head?_append,
      Option.or_assoc, and_assoc]

/-- With something else after it, a list is followed when its last item is. -/
theorem Followed.next_iff (h : Followed R next xs) :
    Followed R next' xs ↔ ∀ x ∈ xs.getLast?, R x next' := by
  induction xs with
  | nil => simp
  | cons x xs ih =>
    cases xs with
    | nil => simp
    | cons y xs =>
      -- what comes after the first item is the second one in both lists
      rw [List.getLast?_cons_cons, followed_cons, ih h.2]
      exact and_iff_right h.1

/-- The last item is related to what comes after the list. -/
theorem Followed.getLast? (h : Followed R next xs) : ∀ x ∈ xs.getLast?, R x next := h.next_iff.mp h

/-- The items by their positions. -/
theorem followed_none_iff :
    Followed R none xs ↔ ∀ i x, xs[i]? = some x → R x xs[i + 1]? := by
  induction xs with
  | nil => simp
  | cons x xs ih =>
    rw [followed_cons, ih, Option.or_none, List.head?_eq_getElem?]
    constructor
    · rintro ⟨hx, hxs⟩ i y hy
      cases i with
      | zero =>
        obtain rfl : x = y := Option.some.inj hy
        exact hx
      | succ i => exact hxs i y hy
    · intro h
      exact ⟨h 0 x rfl, fun i y hy => h (i + 1) y hy⟩

end Followers
