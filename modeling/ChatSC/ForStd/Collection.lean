import Mathlib.Data.List.Basic

/-!
# Collections of documents

A collection of a document store is the list of its documents in the order in which they were
inserted.  `updateOne` changes the first document that matches, `updateMany` all of them, and
`findLatest` is `findOne` with a descending sort, where the document inserted first goes before
others with the same key.  Finding is `List.find?` and `List.filter`, inserting is `++`.  `distinct`
is a list through a set that keeps the order of insertion.
-/

namespace Collection

variable {α : Type*}

/-- `updateOne(match, change)` -/
def updateOne (isMatch : α → Bool) (change : α → α) : List α → List α
  | [] => []
  | x :: xs => if isMatch x then change x :: xs else x :: updateOne isMatch change xs

/-- `updateMany(match, change)` -/
def updateMany (isMatch : α → Bool) (change : α → α) (xs : List α) : List α :=
  xs.map fun x => if isMatch x then change x else x

/-- A field that is saved from a copy: what the copy was given, and what is stored when the copy has
    the value it was loaded with. -/
def saveField {β : Type*} [DecidableEq β] (loaded current stored : β) : β :=
  if current ≠ loaded then current else stored

/-- `findOne().sort(key descending)` -/
def findLatest (key : α → Nat) : List α → Option α
  | [] => none
  | x :: xs =>
    match findLatest key xs with
    | none => some x
    | some y => if key x < key y then some y else some x

/-- `Array.from(new Set(xs))` -/
def distinct [DecidableEq α] : List α → List α
  | [] => []
  | x :: xs => x :: (distinct xs).filter (· ≠ x)

variable {isMatch : α → Bool} {change : α → α} {xs : List α}

/-! ## Updates -/

/-- A document after `updateMany` is one from before, changed when it matches. -/
theorem mem_updateMany {y : α} :
    y ∈ updateMany isMatch change xs ↔ ∃ x ∈ xs, (if isMatch x then change x else x) = y := by
  simp [updateMany]

/-- What every new value has and the stored value had, the saved one has. -/
theorem saveField_of_stored {β : Type*} [DecidableEq β] (P : β → Prop) {loaded current stored : β}
    (hnew : current ≠ loaded → P current) (h : P stored) : P (saveField loaded current stored) := by
  unfold saveField
  split
  · rename_i hne
    exact hnew hne
  · exact h

/-- What the copy has, the saved value has, if it stays once it is stored. -/
theorem saveField_of_current {β : Type*} [DecidableEq β] (P : β → Prop)
    {loaded current stored : β} (hstays : P loaded → P stored) (h : P current) :
    P (saveField loaded current stored) := by
  unfold saveField
  split
  · exact h
  · rename_i heq
    rw [not_not.mp heq] at h
    exact hstays h

/-- What an update keeps of every document, it keeps of the collection. -/
theorem map_updateMany {β : Type*} {f : α → β} (hf : ∀ x, f (change x) = f x) :
    (updateMany isMatch change xs).map f = xs.map f := by
  rw [updateMany, List.map_map]
  apply List.map_congr_left
  intro x _
  by_cases h : isMatch x
  · simp [h, hf]
  · simp [h]

/-- What an update keeps of every document, it keeps of the collection. -/
theorem map_updateOne {β : Type*} {f : α → β} (hf : ∀ x, f (change x) = f x) :
    (updateOne isMatch change xs).map f = xs.map f := by
  induction xs with
  | nil => rfl
  | cons x xs ih =>
    rw [updateOne]
    split
    · rw [List.map_cons, List.map_cons, hf]
    · rw [List.map_cons, List.map_cons, ih]

/-- An update commutes with a view of the documents on which it can be made. -/
theorem map_updateOne_comm {β : Type*} {f : α → β} {isMatch' : β → Bool} {change' : β → β}
    (hmatch : ∀ x, isMatch' (f x) = isMatch x) (hchange : ∀ x, f (change x) = change' (f x)) :
    (updateOne isMatch change xs).map f = updateOne isMatch' change' (xs.map f) := by
  induction xs with
  | nil => rfl
  | cons x xs ih =>
    rw [List.map_cons, updateOne, updateOne, hmatch]
    split
    · rw [List.map_cons, hchange]
    · rw [List.map_cons, ih]

/-- An update that leaves alone whether a matching document has a property keeps their number. -/
theorem countP_updateOne {q : α → Bool}
    (h : ∀ x ∈ xs, isMatch x = true → q (change x) = q x) :
    (updateOne isMatch change xs).countP q = xs.countP q := by
  induction xs with
  | nil => rfl
  | cons x xs ih =>
    rw [updateOne]
    split
    · rename_i hx
      rw [List.countP_cons, List.countP_cons, h x List.mem_cons_self hx]
    · rw [List.countP_cons, List.countP_cons, ih fun y hy => h y (List.mem_cons_of_mem x hy)]

/-- An update that gives no document a property does not make them more. -/
theorem countP_updateOne_le {q : α → Bool}
    (h : ∀ x ∈ xs, isMatch x = true → q (change x) = true → q x = true) :
    (updateOne isMatch change xs).countP q ≤ xs.countP q := by
  induction xs with
  | nil => exact Nat.le_refl 0
  | cons x xs ih =>
    rw [updateOne]
    -- the document that is changed is the first that matches
    split
    · rename_i hx
      rw [List.countP_cons, List.countP_cons]
      -- the others are counted as before
      have hx' := h x List.mem_cons_self hx
      cases hq : q (change x) with
      | true => simp [hx' hq]
      | false => simp
    · rw [List.countP_cons, List.countP_cons]
      have hrest := ih fun y hy => h y (List.mem_cons_of_mem x hy)
      omega

/-- An update after which the document does not match any more leaves one match fewer. -/
theorem countP_updateOne_self (h : ∀ x, isMatch x = true → isMatch (change x) = false) :
    (updateOne isMatch change xs).countP isMatch = xs.countP isMatch - 1 := by
  induction xs with
  | nil => rfl
  | cons x xs ih =>
    rw [updateOne]
    split
    · rename_i hx
      rw [List.countP_cons, List.countP_cons, h x hx, hx]
      simp
    · rename_i hx
      rw [List.countP_cons, List.countP_cons, ih]
      simp [hx]

/-- An update of documents without a property, which gives it to none, keeps those that have it. -/
theorem filter_updateOne {q : α → Bool}
    (h : ∀ x ∈ xs, isMatch x = true → q x = false ∧ q (change x) = false) :
    (updateOne isMatch change xs).filter q = xs.filter q := by
  induction xs with
  | nil => rfl
  | cons x xs ih =>
    rw [updateOne]
    split
    · rename_i hx
      obtain ⟨hbefore, hafter⟩ := h x List.mem_cons_self hx
      rw [List.filter_cons_of_neg (by simp [hafter]), List.filter_cons_of_neg (by simp [hbefore])]
    · rw [List.filter_cons, List.filter_cons, ih fun y hy => h y (List.mem_cons_of_mem x hy)]

/-- An update of documents without a property, which gives it to none, keeps those that have it. -/
theorem filter_updateMany {q : α → Bool}
    (h : ∀ x ∈ xs, isMatch x = true → q x = false ∧ q (change x) = false) :
    (updateMany isMatch change xs).filter q = xs.filter q := by
  induction xs with
  | nil => rfl
  | cons x xs ih =>
    rw [updateMany, List.map_cons, ← updateMany, List.filter_cons, List.filter_cons,
      ih fun y hy => h y (List.mem_cons_of_mem x hy)]
    by_cases hx : isMatch x = true
    · obtain ⟨hbefore, hafter⟩ := h x List.mem_cons_self hx
      simp [hx, hbefore, hafter]
    · simp [hx]

/-- A document is found by its key after an update by key. -/
theorem find?_updateOne_key {β : Type*} [DecidableEq β] {key : α → β}
    (hkeep : ∀ x, key (change x) = key x) (k k' : β) :
    (updateOne (fun x => decide (key x = k)) change xs).find? (fun x => decide (key x = k')) =
      (xs.find? fun x => decide (key x = k')).map fun x => if k' = k then change x else x := by
  induction xs with
  | nil => rfl
  | cons x xs ih =>
    rw [updateOne]
    -- the update stops at the key, and the search too when it looks for the same
    by_cases hx : key x = k
    · by_cases hk : k' = k
      · subst hk
        simp [hx, hkeep]
      · have hne : k ≠ k' := Ne.symm hk
        simp [hx, hkeep, hne, hk]
    · by_cases hx' : key x = k'
      · have hk : k' ≠ k := fun h => hx (hx'.trans h)
        simp [hx', hk]
      · simp only [hx, decide_false, Bool.false_eq_true, if_false, List.find?_cons, hx', ih]

/-- A document is found by its key where keys are unique. -/
theorem find?_key_of_mem {β : Type*} [DecidableEq β] {key : α → β} (hkey : (xs.map key).Nodup)
    {x : α} (hx : x ∈ xs) : xs.find? (fun y => decide (key y = key x)) = some x := by
  induction xs with
  | nil => exact absurd hx List.not_mem_nil
  | cons y xs ih =>
    rw [List.map_cons, List.nodup_cons] at hkey
    rcases List.mem_cons.mp hx with rfl | hmem
    · simp
    · have hne : key y ≠ key x := fun heq => hkey.1 (heq ▸ List.mem_map_of_mem hmem)
      rw [List.find?_cons, decide_eq_false hne]
      exact ih hkey.2 hmem

/-- A document after `updateOne` is one from before, or the change of one that matches. -/
theorem mem_of_mem_updateOne {y : α} (h : y ∈ updateOne isMatch change xs) :
    y ∈ xs ∨ ∃ x ∈ xs, isMatch x = true ∧ y = change x := by
  induction xs with
  | nil => exact absurd h List.not_mem_nil
  | cons x xs ih =>
    rw [updateOne] at h
    -- the change is made at the head, or in the rest
    split at h
    · rename_i hx
      rcases List.mem_cons.mp h with hy | hy
      · exact .inr ⟨x, List.mem_cons_self, hx, hy⟩
      · exact .inl (List.mem_cons_of_mem x hy)
    · rcases List.mem_cons.mp h with hy | hy
      · exact .inl (hy ▸ List.mem_cons_self)
      · rcases ih hy with hmem | ⟨z, hz, hmatch, heq⟩
        · exact .inl (List.mem_cons_of_mem x hmem)
        · exact .inr ⟨z, List.mem_cons_of_mem x hz, hmatch, heq⟩

/-- A document is still there after `updateOne`, or its change is. -/
theorem mem_updateOne_of_mem {x : α} (h : x ∈ xs) :
    x ∈ updateOne isMatch change xs ∨
      (isMatch x = true ∧ change x ∈ updateOne isMatch change xs) := by
  induction xs with
  | nil => exact absurd h List.not_mem_nil
  | cons y xs ih =>
    rw [updateOne]
    split
    · rename_i hy
      rcases List.mem_cons.mp h with rfl | hmem
      · exact .inr ⟨hy, List.mem_cons_self⟩
      · exact .inl (List.mem_cons_of_mem _ hmem)
    · rcases List.mem_cons.mp h with rfl | hmem
      · exact .inl List.mem_cons_self
      · exact (ih hmem).imp (List.mem_cons_of_mem y) fun ⟨hx, hchange⟩ =>
          ⟨hx, List.mem_cons_of_mem y hchange⟩

/-- An update that matches nothing changes nothing. -/
theorem updateMany_eq_self (h : ∀ x ∈ xs, isMatch x = false) :
    updateMany isMatch change xs = xs := by
  have hid : ∀ x ∈ xs, (if isMatch x then change x else x) = id x := by
    intro x hx
    simp [h x hx]
  rw [updateMany, List.map_congr_left hid, List.map_id]

/-- Where a property tells the documents apart, `updateOne` is `updateMany`. -/
theorem updateOne_eq_updateMany {β : Type*} {key : α → β} (hkey : (xs.map key).Nodup)
    (hmatch : ∀ x ∈ xs, ∀ y ∈ xs, isMatch x = true → isMatch y = true → key x = key y) :
    updateOne isMatch change xs = updateMany isMatch change xs := by
  induction xs with
  | nil => rfl
  | cons x xs ih =>
    rw [List.map_cons, List.nodup_cons] at hkey
    rw [updateOne, updateMany, List.map_cons]
    by_cases hx : isMatch x = true
    · rw [if_pos hx, if_pos hx]
      have hrest : ∀ y ∈ xs, isMatch y = false := by
        intro y hy
        -- another match would have the key of the first one
        rw [← Bool.not_eq_true]
        intro hmatch'
        have hsame := hmatch x List.mem_cons_self y (List.mem_cons_of_mem x hy) hx hmatch'
        exact hkey.1 (hsame ▸ List.mem_map_of_mem hy)
      exact congrArg (change x :: ·) (updateMany_eq_self hrest).symm
    · rw [if_neg hx, if_neg hx]
      congr 1
      apply ih hkey.2
      intro y hy z hz
      exact hmatch y (List.mem_cons_of_mem x hy) z (List.mem_cons_of_mem x hz)

/-- The document after the update of the one with a given key. -/
theorem mem_updateOne_key {β : Type*} [DecidableEq β] {key : α → β} (hkey : (xs.map key).Nodup)
    (k : β) {x : α} (hx : x ∈ xs) :
    (if key x = k then change x else x) ∈ updateOne (fun y => key y = k) change xs := by
  have hall : updateOne (fun y => key y = k) change xs = updateMany (fun y => key y = k) change xs :=
    updateOne_eq_updateMany hkey fun y _ z _ hy hz =>
      (of_decide_eq_true hy).trans (of_decide_eq_true hz).symm
  rw [hall, mem_updateMany]
  refine ⟨x, hx, ?_⟩
  by_cases h : key x = k <;> simp [h]

/-- Where all that match have the same key, at most one does. -/
theorem countP_le_one {β : Type*} {key : α → β} (hkey : (xs.map key).Nodup)
    (hmatch : ∀ x ∈ xs, ∀ y ∈ xs, isMatch x = true → isMatch y = true → key x = key y) :
    xs.countP isMatch ≤ 1 := by
  induction xs with
  | nil => exact Nat.zero_le 1
  | cons x xs ih =>
    -- the head matches, so by its key none of the rest does
    rw [List.map_cons, List.nodup_cons] at hkey
    rw [List.countP_cons]
    have hrest := ih hkey.2 fun y hy z hz =>
      hmatch y (List.mem_cons_of_mem x hy) z (List.mem_cons_of_mem x hz)
    by_cases hx : isMatch x = true
    · have hnone : xs.countP isMatch = 0 := by
        rw [List.countP_eq_zero]
        intro y hy hmatch'
        have hsame := hmatch x List.mem_cons_self y (List.mem_cons_of_mem x hy) hx hmatch'
        exact hkey.1 (hsame ▸ List.mem_map_of_mem hy)
      rw [hnone, hx]
      simp
    · rw [if_neg hx]
      exact hrest

/-- Where at most one document matches, two that match are the same. -/
theorem eq_of_length_filter_le_one (h : (xs.filter isMatch).length ≤ 1) {x y : α} (hx : x ∈ xs)
    (hy : y ∈ xs) (hmx : isMatch x = true) (hmy : isMatch y = true) : x = y := by
  have hx' : x ∈ xs.filter isMatch := List.mem_filter.mpr ⟨hx, hmx⟩
  have hy' : y ∈ xs.filter isMatch := List.mem_filter.mpr ⟨hy, hmy⟩
  match hmatches : xs.filter isMatch with
  | [] => simp [hmatches] at hx'
  | [z] =>
    rw [hmatches, List.mem_singleton] at hx' hy'
    rw [hx', hy']
  | _ :: _ :: _ => simp [hmatches] at h

/-! ## Documents with new ids -/

section NewIds

variable {β γ δ : Type*} {f : α → β → γ}

/-- What documents have from their data. -/
theorem map_zipWith_left {g : γ → δ} {k : α → δ} (hg : ∀ a b, g (f a b) = k a) {as : List α}
    {bs : List β} (h : bs.length = as.length) : (List.zipWith f as bs).map g = as.map k := by
  induction as generalizing bs with
  | nil => rw [List.zipWith_nil_left, List.map_nil, List.map_nil]
  | cons a as ih =>
    cases bs with
    | nil => cases h
    | cons b bs =>
      have hlen : bs.length = as.length := by simpa using h
      rw [List.zipWith_cons_cons, List.map_cons, List.map_cons, hg, ih hlen]

/-- What documents have from their ids. -/
theorem map_zipWith_right {g : γ → β} (hg : ∀ a b, g (f a b) = b) {as : List α} {bs : List β}
    (h : bs.length = as.length) : (List.zipWith f as bs).map g = bs := by
  induction as generalizing bs with
  | nil =>
    rw [List.length_eq_zero_iff.mp h]
    rfl
  | cons a as ih =>
    cases bs with
    | nil => cases h
    | cons b bs =>
      have hlen : bs.length = as.length := by simpa using h
      rw [List.zipWith_cons_cons, List.map_cons, hg, ih hlen]

/-- A document has its data and its id. -/
theorem exists_of_mem_zipWith {as : List α} {bs : List β} {c : γ} (h : c ∈ List.zipWith f as bs) :
    ∃ a ∈ as, ∃ b ∈ bs, c = f a b := by
  rw [← List.map_uncurry_zip_eq_zipWith] at h
  obtain ⟨⟨a, b⟩, hab, rfl⟩ := List.mem_map.mp h
  exact ⟨a, (List.of_mem_zip hab).1, b, (List.of_mem_zip hab).2, rfl⟩

end NewIds

/-! ## Sets -/

@[simp] theorem mem_distinct [DecidableEq α] {x : α} : x ∈ distinct xs ↔ x ∈ xs := by
  induction xs with
  | nil => rfl
  | cons y xs ih =>
    by_cases h : x = y
    · simp [distinct, h]
    · simp [distinct, h, ih]

theorem nodup_distinct [DecidableEq α] (xs : List α) : (distinct xs).Nodup := by
  induction xs with
  | nil => exact List.nodup_nil
  | cons x xs ih =>
    rw [distinct, List.nodup_cons]
    exact ⟨by simp, ih.filter _⟩

/-! ## The latest document -/

/-- The latest document is one of the collection. -/
theorem mem_of_findLatest {key : α → Nat} {x : α} (h : findLatest key xs = some x) : x ∈ xs := by
  induction xs generalizing x with
  | nil => cases h
  | cons y xs ih =>
    rw [findLatest] at h
    split at h
    · exact Option.some.inj h ▸ List.mem_cons_self
    · rename_i z hz
      split at h
      · exact Option.some.inj h ▸ List.mem_cons_of_mem y (ih hz)
      · exact Option.some.inj h ▸ List.mem_cons_self

/-- Only an empty collection has no latest document. -/
theorem findLatest_eq_none {key : α → Nat} : findLatest key xs = none ↔ xs = [] := by
  cases xs with
  | nil => simp [findLatest]
  | cons x xs =>
    rw [findLatest]
    split
    · simp
    · split <;> simp

/-- No document is later than the latest one. -/
theorem le_of_findLatest {key : α → Nat} {x : α} (h : findLatest key xs = some x) :
    ∀ y ∈ xs, key y ≤ key x := by
  induction xs generalizing x with
  | nil => exact fun y hy => absurd hy List.not_mem_nil
  | cons z xs ih =>
    intro y hy
    rw [findLatest] at h
    split at h
    · -- nothing in the rest
      rename_i hnone
      obtain rfl := findLatest_eq_none.mp hnone
      obtain rfl := Option.some.inj h
      obtain rfl := List.mem_singleton.mp hy
      exact Nat.le_refl _
    · rename_i w hw
      have hrest := ih hw
      split at h
      · -- a later one is in the rest
        rename_i hlt
        obtain rfl := Option.some.inj h
        rcases List.mem_cons.mp hy with rfl | hy
        · exact Nat.le_of_lt hlt
        · exact hrest y hy
      · -- the first one is not earlier than any of the rest
        rename_i hge
        obtain rfl := Option.some.inj h
        rcases List.mem_cons.mp hy with rfl | hy
        · exact Nat.le_refl _
        · exact Nat.le_trans (hrest y hy) (Nat.not_lt.mp hge)

/-- A document that is later than all others is the latest one. -/
theorem findLatest_concat {key : α → Nat} {y : α} (h : ∀ x ∈ xs, key x < key y) :
    findLatest key (xs ++ [y]) = some y := by
  induction xs with
  | nil => rfl
  | cons x xs ih =>
    rw [List.cons_append, findLatest, ih fun z hz => h z (List.mem_cons_of_mem x hz)]
    exact if_pos (h x List.mem_cons_self)

/-- A view of the documents that keeps the key has the view of the latest one. -/
theorem findLatest_map {β : Type*} {key : α → Nat} {key' : β → Nat} {f : α → β}
    (hf : ∀ x, key' (f x) = key x) (xs : List α) :
    findLatest key' (xs.map f) = (findLatest key xs).map f := by
  induction xs with
  | nil => rfl
  | cons x xs ih =>
    rw [List.map_cons, findLatest, findLatest, ih]
    cases findLatest key xs with
    | none => rfl
    | some y =>
      simp only [Option.map_some, hf]
      split <;> rfl

/-- The latest document has the greatest key. -/
theorem map_findLatest (key : α → Nat) (xs : List α) :
    (findLatest key xs).map key = (xs.map key).max? := by
  cases h : findLatest key xs with
  | none =>
    rw [findLatest_eq_none.mp h]
    rfl
  | some x =>
    refine (List.max?_eq_some_iff.mpr ⟨List.mem_map_of_mem (mem_of_findLatest h), ?_⟩).symm
    intro k hk
    obtain ⟨y, hy, rfl⟩ := List.mem_map.mp hk
    exact le_of_findLatest h y hy

end Collection
