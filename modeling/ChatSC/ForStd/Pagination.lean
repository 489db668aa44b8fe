import Mathlib.Data.List.Sort

/-!
# Pages behind a cursor

A collection is read from the greatest key to the least, a page at a time.  `page` is one page: the
items with a key less than the cursor, the greatest first, cut to the size of a page.  A client shows
a page in ascending order and takes the least key of it as its next cursor; `loadAll` is the client
that goes on until a page is short.

The keys order the items only in part.  `complete_iff` says what a client gets: every item once,
exactly when no two items with the same key stand on the two sides of a page boundary.
-/

namespace Pagination

variable {α β κ : Type*}

/-! ## The client -/

/-- The pages that a client gets which takes the first key of a page as the cursor of the next one
    and stops at a page that is not full; `none` when a page does not come, or when the number of
    calls does not suffice. -/
def loadAll (fetch : Option κ → Option (List α)) (key : α → κ) (size : Nat) :
    Nat → Option κ → Option (List (List α))
  | 0, _ => none
  | calls + 1, cursor =>
    match fetch cursor with
    | none => none
    | some [] => some [[]]
    | some (oldest :: others) =>
      if (oldest :: others).length < size then some [oldest :: others]
      else (loadAll fetch key size calls (some (key oldest))).map ((oldest :: others) :: ·)

/-- What a client gets of views of the items, when the views keep the keys. -/
theorem loadAll_map {key : α → κ} (view : α → β) {key' : β → κ} (hview : ∀ x, key' (view x) = key x)
    {fetch : Option κ → Option (List α)} {fetch' : Option κ → Option (List β)}
    (hfetch : ∀ c, fetch' c = (fetch c).map (List.map view)) (size calls : Nat) :
    ∀ cursor, loadAll fetch' key' size calls cursor =
      (loadAll fetch key size calls cursor).map (List.map (List.map view)) := by
  -- induction on the calls that are left
  induction calls with
  | zero => exact fun _ => rfl
  | succ calls ih =>
    intro cursor
    rw [loadAll, loadAll, hfetch]
    cases fetch cursor with
    | none => rfl
    | some p =>
      cases p with
      | nil => rfl
      | cons oldest others =>
        -- a short page is the last one; a full one is followed by that before its oldest item
        simp only [Option.map_some, List.map_cons, List.length_cons, List.length_map]
        split
        · rfl
        · rw [hview, ih, Option.map_map, Option.map_map]
          rfl

/-! ## Boundaries -/

/-- No two neighbours in the order of reading with the same key are on two pages. -/
def Untied (size : Nat) (keys : List κ) : Prop :=
  ∀ i, 0 < i → ∀ a b, keys[i * size - 1]? = some a → keys[i * size]? = some b → a ≠ b

theorem untied_of_length_le {size : Nat} {keys : List κ} (h : keys.length ≤ size) :
    Untied size keys := by
  intro i hi a b _ hb
  have hlt := (List.getElem?_eq_some_iff.mp hb).1
  have hle : size ≤ i * size := Nat.le_mul_of_pos_left size hi
  omega

/-- The first boundary, and the others. -/
theorem untied_iff {size : Nat} (hsize : 0 < size) {keys : List κ} :
    Untied size keys ↔
      (∀ a b, keys[size - 1]? = some a → keys[size]? = some b → a ≠ b) ∧
        Untied size (keys.drop size) := by
  constructor
  · intro h
    refine ⟨fun a b ha hb => h 1 Nat.one_pos a b (by simpa using ha) (by simpa using hb), ?_⟩
    -- the boundary after page `i` of the rest is the one after page `i + 1` of the whole
    intro i hi a b ha hb
    have hprev : size + (i * size - 1) = (i + 1) * size - 1 := by
      have hpos : 0 < i * size := Nat.mul_pos hi hsize
      rw [Nat.add_mul, Nat.one_mul]
      omega
    have hnext : size + i * size = (i + 1) * size := by rw [Nat.add_mul, Nat.one_mul, Nat.add_comm]
    rw [List.getElem?_drop, hprev] at ha
    rw [List.getElem?_drop, hnext] at hb
    exact h (i + 1) (Nat.succ_pos i) a b ha hb
  · rintro ⟨hfirst, hrest⟩ i hi a b ha hb
    obtain ⟨i, rfl⟩ := Nat.exists_eq_succ_of_ne_zero (Nat.ne_of_gt hi)
    cases i with
    -- the first boundary is the one that stands apart
    | zero => exact hfirst a b (by simpa using ha) (by simpa using hb)
    | succ i =>
      have hpos : 0 < (i + 1) * size := Nat.mul_pos (Nat.succ_pos i) hsize
      have hsplit : (i + 1 + 1) * size = size + (i + 1) * size := by
        rw [Nat.add_mul (i + 1), Nat.one_mul, Nat.add_comm]
      rw [Nat.succ_eq_add_one, hsplit] at ha hb
      apply hrest (i + 1) (Nat.succ_pos i) a b
      · rw [List.getElem?_drop, ← Nat.add_sub_assoc hpos]
        exact ha
      · rw [List.getElem?_drop]
        exact hb

/-! ## Pages -/

variable [LinearOrder κ]

/-- The order of a collection that is read from its greatest key. -/
def NotBefore (key : α → κ) (x y : α) : Prop := key y ≤ key x

instance NotBefore.decidable (key : α → κ) : DecidableRel (NotBefore key) :=
  fun x y => inferInstanceAs (Decidable (key y ≤ key x))

instance NotBefore.total (key : α → κ) : Std.Total (NotBefore key) :=
  ⟨fun x y => le_total (key y) (key x)⟩

instance NotBefore.isTrans (key : α → κ) : IsTrans α (NotBefore key) :=
  ⟨fun _ _ _ hxy hyz => le_trans hyz hxy⟩

/-- The items with the greatest key first; items with the same key stay in their order. -/
def newestFirst (key : α → κ) (xs : List α) : List α := xs.insertionSort (NotBefore key)

/-- The items behind a cursor. -/
def behind (key : α → κ) (cursor : Option κ) (xs : List α) : List α :=
  xs.filter fun x => cursor.all fun c => key x < c

/-- The first items behind a cursor. -/
def page (key : α → κ) (size : Nat) (xs : List α) (cursor : Option κ) : List α :=
  (newestFirst key (behind key cursor xs)).take size

/-- What a client is to get: every item once, each page ascending and older than those before. -/
structure Complete (key : α → κ) (xs : List α) (pages : List (List α)) : Prop where
  all : pages.flatten.Perm xs
  ascending : ∀ p ∈ pages, p.Pairwise fun x y => key x ≤ key y
  older : pages.Pairwise fun p q => ∀ x ∈ q, ∀ y ∈ p, key x < key y

/-! ## Sorting -/

variable {key : α → κ} {size : Nat} {xs : List α} {cursor : Option κ}

theorem perm_newestFirst (key : α → κ) (xs : List α) : (newestFirst key xs).Perm xs :=
  List.perm_insertionSort _ xs

theorem pairwise_newestFirst (key : α → κ) (xs : List α) :
    (newestFirst key xs).Pairwise fun x y => key y ≤ key x :=
  List.pairwise_insertionSort (NotBefore key) xs

@[simp] theorem mem_newestFirst {x : α} : x ∈ newestFirst key xs ↔ x ∈ xs :=
  (perm_newestFirst key xs).mem_iff

@[simp] theorem length_newestFirst (key : α → κ) (xs : List α) :
    (newestFirst key xs).length = xs.length :=
  (perm_newestFirst key xs).length_eq

/-- The sorted keys depend on the items only. -/
theorem keys_newestFirst {ys : List α} (hperm : ys.Perm xs)
    (hsorted : ys.Pairwise fun x y => key y ≤ key x) :
    (newestFirst key xs).map key = ys.map key := by
  have hkeys : ((newestFirst key xs).map key).Perm (ys.map key) :=
    ((perm_newestFirst key xs).trans hperm.symm).map key
  have hsorted' : ((newestFirst key xs).map key).Pairwise fun a b => b ≤ a :=
    List.pairwise_map.mpr (pairwise_newestFirst key xs)
  refine hkeys.eq_of_pairwise ?_ hsorted' (List.pairwise_map.mpr hsorted)
  intro a b _ _ hab hba
  exact le_antisymm hba hab

/-- Views of the items are sorted like the items, when they keep the keys. -/
theorem map_newestFirst (view : α → β) {key' : β → κ} (hview : ∀ x, key' (view x) = key x)
    (xs : List α) : newestFirst key' (xs.map view) = (newestFirst key xs).map view := by
  refine (List.map_insertionSort _ _ view xs fun x _ y _ => ?_).symm
  simp [NotBefore, hview]

/-- A page of views of the items, when the views keep the keys. -/
theorem page_map (view : α → β) {key' : β → κ} (hview : ∀ x, key' (view x) = key x)
    (xs : List α) (cursor : Option κ) :
    page key' size (xs.map view) cursor = (page key size xs cursor).map view := by
  have hbehind : behind key' cursor (xs.map view) = (behind key cursor xs).map view := by
    rw [behind, behind, List.filter_map]
    congr 1
    apply List.filter_congr
    intro x _
    simp [hview]
  rw [page, hbehind, map_newestFirst view hview, page, List.map_take]

/-- What is behind a later cursor was behind the earlier one. -/
theorem behind_behind {c : κ} (h : ∀ d ∈ cursor, c < d) :
    (behind key cursor xs).filter (fun x => key x < c) = behind key (some c) xs := by
  rw [behind, behind, List.filter_filter]
  apply List.filter_congr
  intro x _
  cases cursor with
  | none => simp
  | some d =>
    have hcd : c < d := h d rfl
    by_cases hx : key x < c
    · simp [hx, hx.trans hcd]
    · simp [hx]

/-! ## One page -/

/-- Nothing on a page is older than its last item. -/
theorem le_key_of_mem_take {ys : List α} (hsorted : ys.Pairwise fun x y => key y ≤ key x)
    {oldest : α} (holdest : ys[size - 1]? = some oldest) {x : α} (hx : x ∈ ys.take size) :
    key oldest ≤ key x := by
  obtain ⟨i, hi⟩ := List.mem_iff_getElem?.mp hx
  rw [List.getElem?_take] at hi
  split at hi
  · rename_i hlt
    obtain ⟨hilt, rfl⟩ := List.getElem?_eq_some_iff.mp hi
    obtain ⟨hslt, rfl⟩ := List.getElem?_eq_some_iff.mp holdest
    rcases Nat.lt_or_eq_of_le (show i ≤ size - 1 by omega) with hless | heq
    · exact List.pairwise_iff_getElem.mp hsorted i (size - 1) hilt hslt hless
    · simp [heq]
  · cases hi

/-- Of a sorted collection only what is behind the page can have a key less than the last of it. -/
theorem filter_eq_filter_drop {ys : List α} (hsorted : ys.Pairwise fun x y => key y ≤ key x)
    {oldest : α} (holdest : ys[size - 1]? = some oldest) :
    ys.filter (fun x => key x < key oldest) = (ys.drop size).filter fun x => key x < key oldest := by
  have hnone : (ys.take size).filter (fun x => key x < key oldest) = [] := by
    rw [List.filter_eq_nil_iff]
    intro x hx
    rw [decide_eq_true_eq, not_lt]
    exact le_key_of_mem_take hsorted holdest hx
  conv_lhs => rw [← List.take_append_drop size ys]
  rw [List.filter_append, hnone, List.nil_append]

/-- Without a tie at its end, a page leaves everything else behind its last item. -/
theorem filter_drop_eq_self {ys : List α} (hsorted : ys.Pairwise fun x y => key y ≤ key x)
    {oldest : α} (holdest : ys[size - 1]? = some oldest) (hsize : 0 < size)
    (huntied : ∀ y, ys[size]? = some y → key oldest ≠ key y) :
    (ys.drop size).filter (fun x => key x < key oldest) = ys.drop size := by
  rw [List.filter_eq_self]
  -- everything behind the page is no later than the first item behind it
  intro x hx
  obtain ⟨i, hi⟩ := List.mem_iff_getElem?.mp hx
  rw [List.getElem?_drop] at hi
  obtain ⟨hilt, rfl⟩ := List.getElem?_eq_some_iff.mp hi
  obtain ⟨hslt, rfl⟩ := List.getElem?_eq_some_iff.mp holdest
  have hslt' : size < ys.length := by omega
  -- and that one is not tied with the oldest of the page
  have hfirst : key ys[size] < key ys[size - 1] := by
    apply lt_of_le_of_ne
    · exact List.pairwise_iff_getElem.mp hsorted (size - 1) size hslt hslt' (by omega)
    · exact (huntied ys[size] (List.getElem?_eq_getElem hslt')).symm
  rw [decide_eq_true_eq]
  refine lt_of_le_of_lt ?_ hfirst
  rcases Nat.eq_zero_or_pos i with rfl | hpos
  · simp
  · exact List.pairwise_iff_getElem.mp hsorted size (size + i) hslt' hilt (by omega)

/-- With a tie at the end of a page, one item at least is neither on it nor behind it. -/
theorem length_filter_drop_lt {ys : List α} {oldest tied : α} (htied : ys[size]? = some tied)
    (hkey : key oldest = key tied) :
    ((ys.drop size).filter fun x => key x < key oldest).length < (ys.drop size).length := by
  apply List.length_filter_lt_length_iff_exists.mpr
  refine ⟨tied, ?_, by simp [hkey]⟩
  obtain ⟨hlt, rfl⟩ := List.getElem?_eq_some_iff.mp htied
  exact List.mem_iff_getElem.mpr ⟨0, by rw [List.length_drop]; omega, by simp⟩

/-! ## All pages -/

/-- What the pages are, whether or not they are complete. -/
structure Loaded (key : α → κ) (xs : List α) (pages : List (List α)) : Prop where
  mem : ∀ p ∈ pages, ∀ x ∈ p, x ∈ xs
  length_le : pages.flatten.length ≤ xs.length
  ascending : ∀ p ∈ pages, p.Pairwise fun x y => key x ≤ key y
  older : pages.Pairwise fun p q => ∀ x ∈ q, ∀ y ∈ p, key x < key y

/-- A page in the order in which a client shows it. -/
theorem ascending_reverse {ys : List α} (hsorted : ys.Pairwise fun x y => key y ≤ key x) :
    ys.reverse.Pairwise fun x y => key x ≤ key y :=
  List.pairwise_reverse.mpr hsorted

/-- A last page. -/
theorem loaded_singleton {ys : List α} (hperm : ys.Perm xs)
    (hsorted : ys.Pairwise fun x y => key y ≤ key x) : Loaded key xs [ys.reverse] where
  mem := by
    intro p hp x hx
    obtain rfl := List.mem_singleton.mp hp
    exact hperm.mem_iff.mp (List.mem_reverse.mp hx)
  length_le := by simp [hperm.length_eq]
  ascending := by
    intro p hp
    obtain rfl := List.mem_singleton.mp hp
    exact ascending_reverse hsorted
  older := List.pairwise_singleton _ _

/-- A full page before others. -/
theorem Loaded.cons {ys : List α} (hperm : ys.Perm xs)
    (hsorted : ys.Pairwise fun x y => key y ≤ key x) {oldest : α}
    (holdest : ys[size - 1]? = some oldest) {pages : List (List α)}
    (h : Loaded key (xs.filter fun x => key x < key oldest) pages) :
    Loaded key xs ((ys.take size).reverse :: pages) where
  mem := by
    intro p hp x hx
    rcases List.mem_cons.mp hp with rfl | hp
    · exact hperm.mem_iff.mp (List.mem_of_mem_take (List.mem_reverse.mp hx))
    · exact List.mem_of_mem_filter (h.mem p hp x hx)
  length_le := by
    -- what is not on the page is at most what stands behind it
    have hrest : (xs.filter fun x => key x < key oldest).length ≤ (ys.drop size).length := by
      rw [← (hperm.filter _).length_eq, filter_eq_filter_drop hsorted holdest]
      exact List.length_filter_le _ _
    have hle := h.length_le
    have hsum := congrArg List.length (List.take_append_drop size ys)
    rw [List.length_append, hperm.length_eq] at hsum
    rw [List.flatten_cons, List.length_append, List.length_reverse]
    omega
  ascending := by
    intro p hp
    rcases List.mem_cons.mp hp with rfl | hp
    · exact ascending_reverse (hsorted.sublist (List.take_sublist size ys))
    · exact h.ascending p hp
  older := by
    refine List.pairwise_cons.mpr ⟨?_, h.older⟩
    intro q hq x hx y hy
    have hx' : key x < key oldest := by simpa using List.of_mem_filter (h.mem q hq x hx)
    exact lt_of_lt_of_le hx' (le_key_of_mem_take hsorted holdest (List.mem_reverse.mp hy))

/-- A full page and those behind it are everything exactly when its boundary is not tied and the
    others are everything behind it. -/
theorem perm_cons_iff (hsize : 0 < size) {ys : List α} (hperm : ys.Perm xs)
    (hsorted : ys.Pairwise fun x y => key y ≤ key x) {oldest : α}
    (holdest : ys[size - 1]? = some oldest) {pages : List (List α)}
    (hlen : pages.flatten.length ≤ (xs.filter fun x => key x < key oldest).length)
    (hiff : pages.flatten.Perm (xs.filter fun x => key x < key oldest) ↔
      Untied size ((newestFirst key (xs.filter fun x => key x < key oldest)).map key)) :
    ((ys.take size).reverse :: pages).flatten.Perm xs ↔ Untied size (ys.map key) := by
  -- only what is behind the page can be older than its last item
  have hrest : (xs.filter fun x => key x < key oldest).Perm
      ((ys.drop size).filter fun x => key x < key oldest) := by
    rw [← filter_eq_filter_drop hsorted holdest]
    exact (hperm.filter _).symm
  -- the page itself is accounted for, the rest must be the other pages
  have hsplit : ((ys.take size).reverse :: pages).flatten.Perm xs ↔
      pages.flatten.Perm (ys.drop size) := by
    have htake : ((ys.take size).reverse :: pages).flatten.Perm (ys.take size ++ pages.flatten) := by
      rw [List.flatten_cons]
      exact (List.reverse_perm _).append_right _
    have hdrop : xs.Perm (ys.take size ++ ys.drop size) := by
      rw [List.take_append_drop]
      exact hperm.symm
    constructor
    · intro h
      exact (List.perm_append_left_iff _).mp ((htake.symm.trans h).trans hdrop)
    · intro h
      exact (htake.trans ((List.perm_append_left_iff _).mpr h)).trans hdrop.symm
  rw [hsplit, untied_iff hsize]
  by_cases huntied : ∀ y, ys[size]? = some y → key oldest ≠ key y
  · -- the page ends where the items behind its last one begin
    rw [filter_drop_eq_self hsorted holdest hsize huntied] at hrest
    have hkeys : (newestFirst key (xs.filter fun x => key x < key oldest)).map key =
        (ys.drop size).map key :=
      keys_newestFirst hrest.symm (hsorted.sublist (List.drop_sublist size ys))
    rw [hkeys, List.map_drop] at hiff
    have hfirst : ∀ a b, (ys.map key)[size - 1]? = some a → (ys.map key)[size]? = some b → a ≠ b := by
      intro a b ha hb
      rw [List.getElem?_map, Option.map_eq_some_iff] at ha hb
      obtain ⟨x, hx, rfl⟩ := ha
      obtain ⟨y, hy, rfl⟩ := hb
      cases holdest.symm.trans hx
      exact huntied y hy
    constructor
    · intro h
      exact ⟨hfirst, hiff.mp (h.trans hrest.symm)⟩
    · rintro ⟨-, h⟩
      exact (hiff.mpr h).trans hrest
  · -- a tied item is lost
    simp only [ne_eq, not_forall, not_not] at huntied
    obtain ⟨tied, htied, hkey⟩ := huntied
    have hlost := length_filter_drop_lt htied hkey
    constructor
    · intro h
      have hsame := h.length_eq
      have hless := hrest.length_eq
      omega
    · rintro ⟨hfirst, -⟩
      refine absurd hkey (hfirst _ _ ?_ ?_)
      · rw [List.getElem?_map, holdest, Option.map_some]
      · rw [List.getElem?_map, htied, Option.map_some]

/-- The pages that a client gets, and when they are everything behind its cursor. -/
theorem loadAll_spec (key : α → κ) (hsize : 0 < size) (xs : List α) {calls : Nat} :
    ∀ cursor : Option κ, (behind key cursor xs).length < calls →
      ∃ pages, loadAll (fun c => some (page key size xs c).reverse) key size calls cursor =
          some pages ∧
        Loaded key (behind key cursor xs) pages ∧
        (pages.flatten.Perm (behind key cursor xs) ↔
          Untied size ((newestFirst key (behind key cursor xs)).map key)) := by
  induction calls with
  | zero => exact fun cursor h => absurd h (Nat.not_lt_zero _)
  | succ calls ih =>
    intro cursor hcalls
    have hperm := perm_newestFirst key (behind key cursor xs)
    have hsorted := pairwise_newestFirst key (behind key cursor xs)
    generalize hys : newestFirst key (behind key cursor xs) = ys at hperm hsorted
    have hpage : page key size xs cursor = ys.take size := by rw [page, hys]
    by_cases hshort : ys.length < size
    · -- the last page
      have htake : ys.take size = ys := List.take_of_length_le (Nat.le_of_lt hshort)
      refine ⟨[ys.reverse], ?_, loaded_singleton hperm hsorted, ?_⟩
      · rw [loadAll, hpage, htake]
        cases hrev : ys.reverse with
        | nil => rfl
        | cons oldest others =>
          have hlen : (oldest :: others).length < size := by
            rw [← hrev, List.length_reverse]
            exact hshort
          exact if_pos hlen
      · have hall : [ys.reverse].flatten.Perm (behind key cursor xs) := by
          simpa using (List.reverse_perm ys).trans hperm
        exact iff_of_true hall (untied_of_length_le (by simpa using Nat.le_of_lt hshort))
    · have hfull : size ≤ ys.length := Nat.le_of_not_lt hshort
      obtain ⟨oldest, holdest⟩ : ∃ oldest, ys[size - 1]? = some oldest :=
        ⟨_, List.getElem?_eq_getElem (by omega)⟩
      have hmem : oldest ∈ behind key cursor xs :=
        hperm.mem_iff.mp (List.mem_of_getElem? holdest)
      -- the next cursor asks for what is behind this page
      have hbehind : (behind key cursor xs).filter (fun x => key x < key oldest) =
          behind key (some (key oldest)) xs := by
        apply behind_behind
        rintro d rfl
        simpa [behind] using List.of_mem_filter hmem
      -- the oldest item of the page is not asked for again, so one call less is enough
      have hless : (behind key (some (key oldest)) xs).length < calls := by
        have hlt : ((behind key cursor xs).filter fun x => key x < key oldest).length <
            (behind key cursor xs).length :=
          List.length_filter_lt_length_iff_exists.mpr ⟨oldest, hmem, by simp⟩
        rw [hbehind] at hlt
        omega
      obtain ⟨pages, hpages, hloaded, hiff⟩ := ih (some (key oldest)) hless
      rw [← hbehind] at hloaded hiff
      refine ⟨(ys.take size).reverse :: pages, ?_, .cons hperm hsorted holdest hloaded, ?_⟩
      · have hhead : (ys.take size).reverse.head? = some oldest := by
          rw [List.head?_reverse, List.getLast?_take, if_neg (Nat.ne_of_gt hsize), holdest]
          rfl
        obtain ⟨others, hothers⟩ := List.head?_eq_some_iff.mp hhead
        have hlen : ¬ (oldest :: others).length < size := by
          rw [← hothers, List.length_reverse, List.length_take]
          omega
        rw [loadAll, hpage, hothers]
        simp only [if_neg hlen, hpages, Option.map_some]
      · exact perm_cons_iff hsize hperm hsorted holdest hloaded.length_le hiff

/-- A client gets every item once exactly when no page boundary is tied. -/
theorem complete_iff (key : α → κ) (hsize : 0 < size) (xs : List α) {calls : Nat}
    (hcalls : xs.length < calls) :
    ∃ pages, loadAll (fun c => some (page key size xs c).reverse) key size calls none = some pages ∧
      (Complete key xs pages ↔ Untied size ((newestFirst key xs).map key)) := by
  have hall : behind key none xs = xs := by simp [behind]
  obtain ⟨pages, hpages, hloaded, hiff⟩ :=
    loadAll_spec key hsize xs none (by rwa [hall])
  rw [hall] at hloaded hiff
  refine ⟨pages, hpages, ⟨fun h => hiff.mp h.all, fun h => ?_⟩⟩
  exact ⟨hiff.mpr h, hloaded.ascending, hloaded.older⟩

end Pagination
