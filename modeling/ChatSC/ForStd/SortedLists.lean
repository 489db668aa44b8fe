import Mathlib.Data.List.Sort

/-!
# Lists that are kept sorted by a key

`upsert` adds an item to a sorted list unless its id is there already.  A list that is sorted and has
every id once is `Tidy`; `upsert` keeps it so, and where no two items share a key a tidy list is
determined by its items (`Tidy.eq_of_mem_iff`).  A new item takes its place in a sorted list behind
the items with its key (`insertionSort_concat`).

`List.insertionSort` is stable: it commutes with `filter` (`filter_insertionSort`).  Two sorted lists
with the same items in the same order at every key are equal (`eq_of_filter_key`).
-/

namespace SortedLists

variable {α ι κ : Type*}

/-! ## Adding an item -/

section Upsert

variable [DecidableEq ι] [LinearOrder κ] {id : α → ι} {key : α → κ} {xs ys : List α} {x : α}

/-- Add an item, unless its id is there, and sort. -/
def upsert (id : α → ι) (key : α → κ) (xs : List α) (x : α) : List α :=
  if xs.any fun y => id y = id x then xs
  else (xs ++ [x]).insertionSort fun a b => key a ≤ key b

/-- Every id once, in the order of the keys. -/
structure Tidy (id : α → ι) (key : α → κ) (xs : List α) : Prop where
  nodup : (xs.map id).Nodup
  sorted : xs.Pairwise fun a b => key a ≤ key b

theorem upsert_of_mem (h : id x ∈ xs.map id) : upsert id key xs x = xs := by
  obtain ⟨y, hy, hid⟩ := List.mem_map.mp h
  exact if_pos (List.any_eq_true.mpr ⟨y, hy, decide_eq_true hid⟩)

theorem upsert_of_notMem (h : id x ∉ xs.map id) :
    upsert id key xs x = (xs ++ [x]).insertionSort fun a b => key a ≤ key b := by
  refine if_neg fun hany => h ?_
  obtain ⟨y, hy, hid⟩ := List.any_eq_true.mp hany
  exact List.mem_map.mpr ⟨y, hy, of_decide_eq_true hid⟩

theorem Tidy.upsert (h : Tidy id key xs) (x : α) : Tidy id key (upsert id key xs x) := by
  by_cases hmem : id x ∈ xs.map id
  · rwa [upsert_of_mem hmem]
  · rw [upsert_of_notMem hmem]
    refine ⟨?_, List.pairwise_insertionSort _ _⟩
    have hperm := (List.perm_insertionSort (fun a b => key a ≤ key b) (xs ++ [x])).map id
    rw [hperm.nodup_iff, List.map_append, List.nodup_append]
    refine ⟨h.nodup, List.nodup_singleton _, fun a ha b hb hab => ?_⟩
    obtain rfl : b = id x := List.mem_singleton.mp hb
    exact hmem (hab ▸ ha)

/-- An item is there exactly when it was or is the new one, if equal ids mean equal items. -/
theorem mem_upsert (hid : ∀ y ∈ xs, id y = id x → y = x) {y : α} :
    y ∈ upsert id key xs x ↔ y ∈ xs ∨ y = x := by
  by_cases hmem : id x ∈ xs.map id
  · rw [upsert_of_mem hmem]
    obtain ⟨z, hz, hzid⟩ := List.mem_map.mp hmem
    obtain rfl : z = x := hid z hz hzid
    exact ⟨.inl, fun hy => hy.elim (·) (· ▸ hz)⟩
  · rw [upsert_of_notMem hmem, List.mem_insertionSort, List.mem_append, List.mem_singleton]

theorem Tidy.foldl_upsert (h : Tidy id key xs) (ys : List α) :
    Tidy id key (ys.foldl (SortedLists.upsert id key) xs) := by
  induction ys generalizing xs with
  | nil => exact h
  | cons y ys ih => exact ih (h.upsert y)

/-- What has been added, or was there. -/
theorem mem_foldl_upsert
    (hid : ∀ y ∈ xs ++ ys, ∀ z ∈ xs ++ ys, id y = id z → y = z) {z : α} :
    z ∈ ys.foldl (SortedLists.upsert id key) xs ↔ z ∈ xs ∨ z ∈ ys := by
  induction ys generalizing xs with
  | nil => simp
  | cons y ys ih =>
    -- equal ids mean equal items, so nothing is lost where an id is there already
    have hmem (a : α) : a ∈ SortedLists.upsert id key xs y ↔ a ∈ xs ∨ a = y :=
      mem_upsert fun b hb => hid b (List.mem_append_left _ hb) y
        (List.mem_append_right _ List.mem_cons_self)
    have hsub (a : α) (ha : a ∈ SortedLists.upsert id key xs y ++ ys) : a ∈ xs ++ y :: ys := by
      rw [List.mem_append, hmem] at ha
      rw [List.mem_append, List.mem_cons]
      tauto
    rw [List.foldl_cons, ih fun a ha b hb => hid a (hsub a ha) b (hsub b hb), hmem, List.mem_cons,
      or_assoc]

omit [DecidableEq ι] in
/-- Without ties, a tidy list is determined by its items. -/
theorem Tidy.eq_of_mem_iff (h : Tidy id key xs) (h' : Tidy id key ys)
    (hmem : ∀ z, z ∈ xs ↔ z ∈ ys) (hkey : ∀ y ∈ xs, ∀ z ∈ xs, key y = key z → y = z) :
    xs = ys := by
  have hperm : xs.Perm ys :=
    (List.perm_ext_iff_of_nodup h.nodup.of_map h'.nodup.of_map).mpr hmem
  refine hperm.eq_of_pairwise (fun a b ha hb hab hba => ?_) h.sorted h'.sorted
  exact hkey a ha b ((hmem b).mpr hb) (le_antisymm hab hba)

end Upsert

/-! ## The place of a new item -/

section Place

variable [LinearOrder κ] {key : α → κ} {xs : List α}

/-- The items up to a key and the ones after it, where all are after it. -/
theorem filter_of_forall_lt {k : κ} (h : ∀ y ∈ xs, k < key y) :
    xs.filter (fun y => key y ≤ k) = [] ∧ xs.filter (fun y => k < key y) = xs := by
  rw [List.filter_eq_nil_iff, List.filter_eq_self]
  exact ⟨fun y hy => by simpa using h y hy, fun y hy => by simpa using h y hy⟩

/-- In a sorted list every item is after a key that the first one is after. -/
theorem forall_lt_of_head {k : κ} {y : α} (hy : ∀ z ∈ xs, key y ≤ key z) (hky : k < key y) :
    ∀ z ∈ y :: xs, k < key z := by
  intro z hz
  rcases List.mem_cons.mp hz with rfl | hz
  · exact hky
  · exact lt_of_lt_of_le hky (hy z hz)

/-- A sorted list is what is up to a key, and what is after it. -/
theorem filter_le_append_filter_lt (hsorted : xs.Pairwise fun a b => key a ≤ key b) (k : κ) :
    xs.filter (fun y => key y ≤ k) ++ xs.filter (fun y => k < key y) = xs := by
  induction xs with
  | nil => rfl
  | cons y xs ih =>
    obtain ⟨hy, hxs⟩ := List.pairwise_cons.mp hsorted
    by_cases hyk : key y ≤ k
    · rw [List.filter_cons_of_pos (by simpa using hyk), List.filter_cons_of_neg (by simpa using hyk),
        List.cons_append, ih hxs]
    · obtain ⟨hnil, hself⟩ := filter_of_forall_lt (forall_lt_of_head hy (lt_of_not_ge hyk))
      rw [hnil, hself, List.nil_append]

/-- A new item comes after the ones with its key or a less one, and before the others. -/
theorem insertionSort_concat (hsorted : xs.Pairwise fun a b => key a ≤ key b) (x : α) :
    (xs ++ [x]).insertionSort (fun a b => key a ≤ key b) =
      xs.filter (fun y => key y ≤ key x) ++ x :: xs.filter (fun y => key x < key y) := by
  induction xs with
  | nil => rfl
  | cons y xs ih =>
    obtain ⟨hy, hxs⟩ := List.pairwise_cons.mp hsorted
    rw [List.cons_append, List.insertionSort_cons, ih hxs]
    by_cases hyx : key y ≤ key x
    · rw [List.filter_cons_of_pos (by simpa using hyx), List.filter_cons_of_neg (by simpa using hyx)]
      -- it is not after the first of the others
      cases hfilter : xs.filter fun z => key z ≤ key x with
      | nil => exact List.orderedInsert_cons_of_le _ _ hyx
      | cons z zs =>
        have hz : z ∈ xs.filter fun z => key z ≤ key x := hfilter ▸ List.mem_cons_self
        exact List.orderedInsert_cons_of_le _ _ (hy z (List.mem_of_mem_filter hz))
    · -- everything there comes after the new item
      have hlt := forall_lt_of_head hy (lt_of_not_ge hyx)
      obtain ⟨hnil, hself⟩ := filter_of_forall_lt hlt
      obtain ⟨hnil', hself'⟩ := filter_of_forall_lt fun z hz => hlt z (List.mem_cons_of_mem y hz)
      rw [hnil, hself, hnil', hself', List.nil_append, List.nil_append,
        List.orderedInsert_of_not_le (fun a b => key a ≤ key b) xs hyx]
      cases xs with
      | nil => rfl
      | cons z zs =>
        exact congrArg (x :: ·) (List.orderedInsert_cons_of_le _ _ (hy z List.mem_cons_self))

end Place

/-! ## Stability -/

section Stable

variable {r : α → α → Prop} [DecidableRel r]

/-- An item that is filtered out may as well not be inserted. -/
theorem filter_orderedInsert [IsTrans α r] (p : α → Bool) (x : α) {xs : List α}
    (hsorted : xs.Pairwise r) :
    (xs.orderedInsert r x).filter p =
      if p x then (xs.filter p).orderedInsert r x else xs.filter p := by
  induction xs with
  | nil =>
    rw [List.orderedInsert_nil, List.filter_nil, List.orderedInsert_nil, List.filter_cons]
    rfl
  | cons y xs ih =>
    obtain ⟨hy, hrest⟩ := List.pairwise_cons.mp hsorted
    by_cases hxy : r x y
    · -- it comes before all that are left
      have hfirst : ∀ z ∈ (y :: xs).filter p, r x z := by
        intro z hz
        rcases List.mem_cons.mp (List.mem_of_mem_filter hz) with rfl | hz
        · exact hxy
        · exact IsTrans.trans x y z hxy (hy z hz)
      rw [List.orderedInsert_cons_of_le r xs hxy, List.filter_cons]
      split
      · cases hfilter : (y :: xs).filter p with
        | nil => rw [List.orderedInsert_nil]
        | cons z zs =>
          rw [List.orderedInsert_cons_of_le r zs (hfirst z (hfilter ▸ List.mem_cons_self))]
      · rfl
    · rw [List.orderedInsert_of_not_le r xs hxy, List.filter_cons, List.filter_cons, ih hrest]
      -- it comes behind `y`, whether `y` is kept or not
      split
      · split
        · rw [List.orderedInsert_of_not_le r _ hxy]
        · rfl
      · rfl

/-- A stable sort commutes with `filter`. -/
theorem filter_insertionSort [Std.Total r] [IsTrans α r] (p : α → Bool) (xs : List α) :
    (xs.insertionSort r).filter p = (xs.filter p).insertionSort r := by
  induction xs with
  | nil => rfl
  | cons x xs ih =>
    rw [List.insertionSort_cons, filter_orderedInsert p x (List.pairwise_insertionSort r xs),
      List.filter_cons, ih]
    split
    · rw [List.insertionSort_cons]
    · rfl

variable [LinearOrder κ] {key : α → κ} {xs ys : List α}

/-- The first key of a sorted list is the greatest. -/
theorem key_le_of_head {x : α} (hsorted : (x :: xs).Pairwise fun a b => key b ≤ key a) {y : α}
    (hy : y ∈ x :: xs) : key y ≤ key x := by
  rcases List.mem_cons.mp hy with rfl | hy
  · exact le_refl _
  · exact (List.pairwise_cons.mp hsorted).1 y hy

theorem mem_iff_of_filter_key
    (h : ∀ k, xs.filter (fun x => key x = k) = ys.filter (fun y => key y = k)) (x : α) :
    x ∈ xs ↔ x ∈ ys := by
  have hx : x ∈ xs.filter (fun y => key y = key x) ↔ x ∈ ys.filter (fun y => key y = key x) := by
    rw [h]
  simpa using hx

/-- Sorted lists with the same items in the same order at every key are equal. -/
theorem eq_of_filter_key (hxs : xs.Pairwise fun a b => key b ≤ key a)
    (hys : ys.Pairwise fun a b => key b ≤ key a)
    (h : ∀ k, xs.filter (fun x => key x = k) = ys.filter (fun y => key y = k)) : xs = ys := by
  have hmem := mem_iff_of_filter_key h
  induction xs generalizing ys with
  | nil =>
    cases ys with
    | nil => rfl
    | cons y ys => exact absurd ((hmem y).mpr List.mem_cons_self) List.not_mem_nil
  | cons x xs ih =>
    cases ys with
    | nil => exact absurd ((hmem x).mp List.mem_cons_self) List.not_mem_nil
    | cons y ys =>
      -- both first items are the first ones at the greatest key
      have hkey : key x = key y :=
        le_antisymm (key_le_of_head hys ((hmem x).mp List.mem_cons_self))
          (key_le_of_head hxs ((hmem y).mpr List.mem_cons_self))
      have hheads := h (key x)
      simp only [List.filter_cons, hkey, decide_true, if_true] at hheads
      obtain rfl : x = y := (List.cons.inj hheads).1
      have hrest (k : κ) : xs.filter (fun x => key x = k) = ys.filter (fun y => key y = k) := by
        have hk := h k
        simp only [List.filter_cons] at hk
        split at hk
        · exact (List.cons.inj hk).2
        · exact hk
      rw [ih (List.pairwise_cons.mp hxs).2 (List.pairwise_cons.mp hys).2 hrest
        (mem_iff_of_filter_key hrest)]

end Stable

end SortedLists
