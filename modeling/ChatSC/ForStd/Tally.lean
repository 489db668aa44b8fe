import Mathlib.Data.List.Basic

/-!
# Late counts

A reader keeps a count of the items that are new to them.  Items arrive first and are counted some
time later; between the two they are pending.  The reader may declare everything read, which sets
the count to zero and changes what is new.

The count is `Right` when it is the number of new items, less those that are still pending.  It
stays right when an item arrives that is new, when a pending item is counted, and when everything is
declared read at a moment at which exactly the pending items are new.
-/

/-- The items that have arrived, which of them are new and which are pending, and the count. -/
structure Tally (α : Type*) where
  items : List α
  isNew : α → Bool
  isPending : α → Bool
  count : Nat

namespace Tally

variable {α : Type*} {t t' : Tally α}

/-- The count is the number of new items, once the pending ones are counted. -/
def Right (t : Tally α) : Prop := t.count + t.items.countP t.isPending = t.items.countP t.isNew

/-- Only the items of the list matter. -/
theorem Right.congr (h : t.Right) (hitems : t'.items = t.items) (hcount : t'.count = t.count)
    (hnew : ∀ x ∈ t.items, t'.isNew x = t.isNew x)
    (hpending : ∀ x ∈ t.items, t'.isPending x = t.isPending x) : t'.Right := by
  have hcountNew : t.items.countP t'.isNew = t.items.countP t.isNew :=
    List.countP_congr fun x hx => by rw [hnew x hx]
  have hcountPending : t.items.countP t'.isPending = t.items.countP t.isPending :=
    List.countP_congr fun x hx => by rw [hpending x hx]
  show t'.count + t'.items.countP t'.isPending = t'.items.countP t'.isNew
  rw [hitems, hcount, hcountNew, hcountPending]
  exact h

/-- A new item arrives, and is pending. -/
theorem Right.arrive (h : t.Right) {x : α} (hitems : t'.items = t.items ++ [x])
    (hcount : t'.count = t.count) (hnew : ∀ y ∈ t.items, t'.isNew y = t.isNew y)
    (hpending : ∀ y ∈ t.items, t'.isPending y = t.isPending y) (hxnew : t'.isNew x = true)
    (hxpending : t'.isPending x = true) : t'.Right := by
  have hold : (⟨t.items, t'.isNew, t'.isPending, t.count⟩ : Tally α).Right :=
    h.congr rfl rfl hnew hpending
  have hsum : t.count + t.items.countP t'.isPending = t.items.countP t'.isNew := hold
  show t'.count + t'.items.countP t'.isPending = t'.items.countP t'.isNew
  rw [hitems, hcount, List.countP_append, List.countP_append, List.countP_singleton,
    List.countP_singleton, hxnew, hxpending]
  simp only [if_true]
  omega

/-- One item that loses a property is one item fewer with the property. -/
theorem countP_of_one_less {items : List α} (hnodup : items.Nodup) {p q : α → Bool} {x : α}
    (hx : x ∈ items) (hpx : p x = true) (hqx : q x = false) (h : ∀ y ∈ items, y ≠ x → q y = p y) :
    items.countP q + 1 = items.countP p := by
  induction items with
  | nil => exact absurd hx List.not_mem_nil
  | cons y items ih =>
    rw [List.nodup_cons] at hnodup
    rw [List.countP_cons, List.countP_cons]
    by_cases hyx : y = x
    · subst hyx
      have hrest : items.countP q = items.countP p := by
        apply List.countP_congr
        intro z hz
        have hne : z ≠ y := fun heq => hnodup.1 (heq ▸ hz)
        rw [h z (List.mem_cons_of_mem y hz) hne]
      rw [hrest, hpx, hqx]
      simp
    · have hmem : x ∈ items := (List.mem_cons.mp hx).resolve_left fun heq => hyx heq.symm
      have hrest := ih hnodup.2 hmem fun z hz => h z (List.mem_cons_of_mem y hz)
      rw [h y List.mem_cons_self hyx]
      omega

/-- A pending item is counted. -/
theorem Right.count (h : t.Right) (hnodup : t.items.Nodup) {x : α} (hx : x ∈ t.items)
    (hitems : t'.items = t.items) (hcount : t'.count = t.count + 1)
    (hnew : ∀ y ∈ t.items, t'.isNew y = t.isNew y) (hxpending : t.isPending x = true)
    (hxcounted : t'.isPending x = false)
    (hpending : ∀ y ∈ t.items, y ≠ x → t'.isPending y = t.isPending y) : t'.Right := by
  have hless := countP_of_one_less hnodup hx hxpending hxcounted hpending
  have hsame : t.items.countP t'.isNew = t.items.countP t.isNew :=
    List.countP_congr fun y hy => by rw [hnew y hy]
  have hsum : t.count + t.items.countP t.isPending = t.items.countP t.isNew := h
  show t'.count + t'.items.countP t'.isPending = t'.items.countP t'.isNew
  rw [hitems, hcount, hsame]
  omega

/-- Everything is declared read, when exactly the pending items are new afterwards. -/
theorem right_of_reset (hcount : t.count = 0) (h : ∀ x ∈ t.items, t.isNew x = t.isPending x) :
    t.Right := by
  have hsame : t.items.countP t.isNew = t.items.countP t.isPending :=
    List.countP_congr fun x hx => by rw [h x hx]
  show t.count + t.items.countP t.isPending = t.items.countP t.isNew
  rw [hcount, hsame, Nat.zero_add]

/-- When nothing is pending, the count is the number of new items. -/
theorem Right.settled (h : t.Right) (hpending : ∀ x ∈ t.items, t.isPending x = false) :
    t.count = t.items.countP t.isNew := by
  have hzero : t.items.countP t.isPending = 0 := by
    rw [List.countP_eq_zero]
    intro x hx
    simp [hpending x hx]
  have hsum : t.count + t.items.countP t.isPending = t.items.countP t.isNew := h
  omega

end Tally
