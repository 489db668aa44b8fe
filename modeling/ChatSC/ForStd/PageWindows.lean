import Mathlib.Data.List.MinMax
import ChatSC.ForStd.Pagination

/-!
# How far back a client has come

A client shows some items of a collection that it reads page by page.  It has `Reached` the end when
nothing there is before everything it shows; where no two items share a key, that is so exactly when
its first item is the first one there is (`argmin_eq_iff_reached`).

A page that is not full reaches the end, together with what stood at its cursor.  The newest page alone
reaches it exactly when the collection fits on it (`reached_page_iff`).
-/

namespace Pagination

variable {α κ : Type*} [LinearOrder κ] {key : α → κ} {size : Nat} {xs ys shown : List α}
  {cursor : Option κ}

/-- Nothing in the collection has a key less than all that is shown. -/
def Reached (key : α → κ) (shown xs : List α) : Prop := ∀ x ∈ xs, ∃ y ∈ shown, key y ≤ key x

theorem Reached.of_subset (h : Reached key shown xs) (hsub : ∀ y ∈ shown, y ∈ ys) :
    Reached key ys xs := by
  intro x hx
  obtain ⟨y, hy, hle⟩ := h x hx
  exact ⟨y, hsub y hy, hle⟩

/-- One item more in the collection. -/
theorem reached_concat_iff {x : α} :
    Reached key shown (xs ++ [x]) ↔ Reached key shown xs ∧ ∃ y ∈ shown, key y ≤ key x := by
  constructor
  · intro h
    exact ⟨fun z hz => h z (List.mem_append_left _ hz),
      h x (List.mem_append_right _ List.mem_cons_self)⟩
  · rintro ⟨hxs, hx⟩ z hz
    rcases List.mem_append.mp hz with hz | hz
    · exact hxs z hz
    · rwa [List.mem_singleton.mp hz]

/-- Items of a collection without ties have reached its end when the first of them is its first. -/
theorem argmin_eq_iff_reached (hsub : ∀ y ∈ shown, y ∈ xs)
    (hkey : ∀ x ∈ xs, ∀ y ∈ xs, key x = key y → x = y) :
    shown.argmin key = xs.argmin key ↔ Reached key shown xs := by
  constructor
  · intro h x hx
    -- the first item of the collection is shown
    cases hfirst : xs.argmin key with
    | none => exact absurd (List.argmin_eq_none.mp hfirst ▸ hx) List.not_mem_nil
    | some first =>
      exact ⟨first, List.argmin_mem (h.trans hfirst), List.le_of_mem_argmin hx hfirst⟩
  · intro h
    cases hfirst : xs.argmin key with
    | none =>
      rw [List.argmin_eq_none] at hfirst ⊢
      exact List.eq_nil_iff_forall_not_mem.mpr fun y hy => by simpa [hfirst] using hsub y hy
    | some first =>
      obtain ⟨y, hy, hle⟩ := h first (List.argmin_mem hfirst)
      cases hshown : shown.argmin key with
      | none => exact absurd (List.argmin_eq_none.mp hshown ▸ hy) List.not_mem_nil
      | some first' =>
        have hmem := hsub first' (List.argmin_mem hshown)
        have hle' : key first' ≤ key first := (List.le_of_mem_argmin hy hshown).trans hle
        have heq : key first' = key first :=
          le_antisymm hle' (List.le_of_mem_argmin hmem hfirst)
        rw [hkey first' hmem first (List.argmin_mem hfirst) heq]

/-! ## Pages -/

theorem mem_behind {x : α} : x ∈ behind key cursor xs ↔ x ∈ xs ∧ ∀ c ∈ cursor, key x < c := by
  cases cursor <;> simp [behind]

theorem mem_of_mem_page {x : α} (h : x ∈ page key size xs cursor) : x ∈ behind key cursor xs :=
  mem_newestFirst.mp (List.mem_of_mem_take h)

/-- A page that is not full has everything behind its cursor. -/
theorem mem_page_of_length_lt (hlt : (page key size xs cursor).length < size) {x : α}
    (hx : x ∈ behind key cursor xs) : x ∈ page key size xs cursor := by
  have hall : page key size xs cursor = newestFirst key (behind key cursor xs) := by
    apply List.take_of_length_le
    rw [page, List.length_take] at hlt
    omega
  rw [hall]
  exact mem_newestFirst.mpr hx

/-- A first page that is not full reaches the end. -/
theorem reached_of_length_lt (hlt : (page key size xs none).length < size) :
    Reached key (page key size xs none) xs := by
  intro x hx
  exact ⟨x, mem_page_of_length_lt hlt (mem_behind.mpr ⟨hx, fun _ hc => nomatch hc⟩), le_refl _⟩

/-- A page that is not full reaches the end, with what is shown from its cursor on. -/
theorem reached_append_of_length_lt {y : α} (hy : y ∈ shown)
    (hlt : (page key size xs (some (key y))).length < size)
    (hpage : ∀ x ∈ page key size xs (some (key y)), x ∈ ys) : Reached key (ys ++ shown) xs := by
  intro x hx
  by_cases hxy : key x < key y
  · have hmem : x ∈ behind key (some (key y)) xs :=
      mem_behind.mpr ⟨hx, fun c hc => (Option.some.inj hc) ▸ hxy⟩
    exact ⟨x, List.mem_append_left _ (hpage x (mem_page_of_length_lt hlt hmem)), le_refl _⟩
  · exact ⟨y, List.mem_append_right _ hy, le_of_not_gt hxy⟩

/-- The newest page reaches the end of a collection without ties exactly when there is no other. -/
theorem reached_page_iff (hkeys : (xs.map key).Nodup) :
    Reached key (page key size xs none) xs ↔ xs.length ≤ size := by
  have hbehind : behind key none xs = xs := by simp [behind]
  have hperm := perm_newestFirst key xs
  have hlength := hperm.length_eq
  rw [page, hbehind]
  constructor
  · intro h
    by_contra hlong
    -- the first item that is not on the page is before everything on it
    have hlt : size < (newestFirst key xs).length := by omega
    have hnodup : ((newestFirst key xs).map key).Nodup := (hperm.map key).nodup_iff.mpr hkeys
    obtain ⟨y, hy, hle⟩ := h _ (hperm.mem_iff.mp (List.getElem_mem hlt))
    obtain ⟨i, hi⟩ := List.mem_iff_getElem?.mp hy
    rw [List.getElem?_take] at hi
    split at hi
    · rename_i hisize
      obtain ⟨hilt, rfl⟩ := List.getElem?_eq_some_iff.mp hi
      have hge := List.pairwise_iff_getElem.mp (pairwise_newestFirst key xs) i size hilt hlt hisize
      have hne := List.pairwise_iff_getElem.mp (List.pairwise_map.mp hnodup) i size hilt hlt hisize
      exact hne (le_antisymm hle hge)
    · cases hi
  · intro hle x hx
    refine ⟨x, ?_, le_refl _⟩
    rw [List.take_of_length_le (by omega)]
    exact hperm.mem_iff.mpr hx

end Pagination
