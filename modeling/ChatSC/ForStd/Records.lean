import Mathlib.Data.List.Basic
import Mathlib.Data.List.Nodup

/-!
# Lists of records

A list of records, one index a record, in which a record is replaced in place or added at the end:
what is found at an index afterwards.
-/

namespace Records

variable {α : Type*}

/-- After a record is replaced, its index holds the new one and every other index its old one. -/
theorem getElem?_set_eq_some {l : List α} {index i : Nat} {old new a : α}
    (h : l[index]? = some old) :
    (l.set index new)[i]? = some a ↔ (i = index ∧ a = new) ∨ (i ≠ index ∧ l[i]? = some a) := by
  have hlt : index < l.length := (List.getElem?_eq_some_iff.mp h).1
  by_cases hi : index = i
  · subst hi
    simp [hlt, eq_comm]
  · simp [hi, Ne.symm hi]

/-- After a record is added, the index behind the old ones holds it. -/
theorem getElem?_concat_eq_some {l : List α} {i : Nat} {new a : α} :
    (l ++ [new])[i]? = some a ↔ (i = l.length ∧ a = new) ∨ l[i]? = some a := by
  rcases Nat.lt_trichotomy i l.length with hlt | heq | hgt
  · simp [List.getElem?_append_left hlt, Nat.ne_of_lt hlt]
  · subst heq
    simp [eq_comm]
  · rw [List.getElem?_append_right (Nat.le_of_lt hgt), List.getElem?_eq_none_iff.mpr
      (by simp only [List.length_cons, List.length_nil]; omega),
      List.getElem?_eq_none_iff.mpr (Nat.le_of_lt hgt)]
    simp [Nat.ne_of_gt hgt]

/-- Replacing a record by itself changes nothing. -/
theorem set_self {l : List α} {index : Nat} {a : α} (h : l[index]? = some a) :
    l.set index a = l := by
  obtain ⟨hlt, rfl⟩ := List.getElem?_eq_some_iff.mp h
  exact List.set_getElem_self hlt

/-- A key that no record has stays unique when a record comes that has it. -/
theorem nodup_map_concat {β : Type*} {f : α → β} {l : List α} {a : α} (hl : (l.map f).Nodup)
    (hfresh : f a ∉ l.map f) : ((l ++ [a]).map f).Nodup := by
  rw [List.map_append, List.map_singleton, List.nodup_append]
  refine ⟨hl, List.nodup_singleton _, fun k hk k' hk' heq => ?_⟩
  rw [heq, List.mem_singleton.mp hk'] at hk
  exact hfresh hk

/-- What there is with a key, there is where the keys are more. -/
theorem exists_of_map_subset {β : Type*} {f : α → β} {l l' : List α} (h : l.map f ⊆ l'.map f)
    {P : β → Prop} (hx : ∃ a ∈ l, P (f a)) : ∃ a ∈ l', P (f a) := by
  obtain ⟨a, hmem, hp⟩ := hx
  obtain ⟨b, hb, heq⟩ := List.mem_map.mp (h (List.mem_map_of_mem hmem))
  exact ⟨b, hb, heq ▸ hp⟩

/-- What records list between them grows by what one of them adds. -/
theorem perm_flatMap_set {β : Type*} {f : α → List β} {l : List α} {index : Nat} {old new : α}
    {added : List β} (h : l[index]? = some old) (hnew : f new = f old ++ added) :
    ((l.set index new).flatMap f).Perm (l.flatMap f ++ added) := by
  induction l generalizing index with
  | nil => cases h
  | cons a l ih =>
    cases index with
    | zero =>
      obtain rfl : a = old := by simpa using h
      rw [List.set_cons_zero, List.flatMap_cons, List.flatMap_cons, hnew, List.append_assoc,
        List.append_assoc]
      exact List.Perm.append_left (f a) List.perm_append_comm
    | succ index =>
      rw [List.set_cons_succ, List.flatMap_cons, List.flatMap_cons, List.append_assoc]
      exact List.Perm.append_left (f a) (ih (by simpa using h))

/-- A record of a list in which one record was changed: an old one, or the changed one. -/
theorem mem_modify {l : List α} {index : Nat} {f : α → α} {a : α} (h : a ∈ l.modify index f) :
    a ∈ l ∨ ∃ old, l[index]? = some old ∧ a = f old := by
  obtain ⟨i, hi⟩ := List.mem_iff_getElem?.mp h
  by_cases heq : index = i
  · subst heq
    rw [List.getElem?_modify_eq] at hi
    obtain ⟨old, hold, rfl⟩ := Option.map_eq_some_iff.mp hi
    exact .inr ⟨old, hold, rfl⟩
  · rw [List.getElem?_modify_ne f l heq] at hi
    exact .inl (List.mem_of_getElem? hi)

/-- What holds of all records and of the changed one. -/
theorem forall_mem_modify {l : List α} {index : Nat} {f : α → α} {p : α → Prop}
    (h : ∀ a ∈ l, p a) (hchanged : ∀ old, l[index]? = some old → p (f old)) :
    ∀ a ∈ l.modify index f, p a := by
  intro a ha
  cases mem_modify ha with
  | inl hold => exact h a hold
  | inr hnew =>
    obtain ⟨old, hold, rfl⟩ := hnew
    exact hchanged old hold

/-- Of two lists of the same length, what one has at an index the other has too. -/
theorem exists_getElem?_of_mem {β : Type*} {l : List α} {l' : List β}
    (hlength : l.length = l'.length) {a : α} (h : a ∈ l) :
    ∃ (i : Nat) (b : β), l[i]? = some a ∧ l'[i]? = some b := by
  obtain ⟨i, hi⟩ := List.mem_iff_getElem?.mp h
  have hlt : i < l'.length := hlength ▸ (List.getElem?_eq_some_iff.mp hi).1
  exact ⟨i, l'[i], hi, List.getElem?_eq_getElem hlt⟩

/-- The last record of a list is changed. -/
theorem modify_concat (l : List α) (a : α) (f : α → α) :
    (l ++ [a]).modify l.length f = l ++ [f a] := by
  induction l with
  | nil => rfl
  | cons b l ih => exact congrArg (b :: ·) ih

/-- A change that keeps a field keeps the list of that field. -/
theorem map_modify {β : Type*} {field : α → β} {f : α → α} (hkeep : ∀ a, field (f a) = field a)
    (l : List α) (index : Nat) : (l.modify index f).map field = l.map field := by
  apply List.ext_getElem?
  intro i
  rw [List.getElem?_map, List.getElem?_map]
  by_cases heq : index = i
  · subst heq
    rw [List.getElem?_modify_eq]
    cases l[index]? with
    | none => rfl
    | some a => exact congrArg some (hkeep a)
  · rw [List.getElem?_modify_ne f l heq]

/-- An effect on records in order: it does not fail on the first, nor on the others. -/
theorem mapM_cons_eq_some {β : Type*} {f : α → Option β} {x : α} {xs : List α} {ys : List β} :
    (x :: xs).mapM f = some ys ↔ ∃ z, f x = some z ∧ ∃ zs, xs.mapM f = some zs ∧ z :: zs = ys := by
  rw [List.mapM_cons]
  simp only [Option.bind_eq_bind, Option.bind_eq_some_iff, Option.pure_def, Option.some.injEq]

/-- What is made of records in order, with an effect that can fail: each one is made of a record. -/
theorem exists_of_mem_mapM {β : Type*} {f : α → Option β} {xs : List α} {ys : List β}
    (h : xs.mapM f = some ys) {y : β} (hy : y ∈ ys) : ∃ x ∈ xs, f x = some y := by
  induction xs generalizing ys with
  | nil =>
    cases h
    exact absurd hy List.not_mem_nil
  | cons x xs ih =>
    obtain ⟨z, hz, zs, hzs, rfl⟩ := mapM_cons_eq_some.mp h
    rcases List.mem_cons.mp hy with rfl | hy
    · exact ⟨x, List.mem_cons_self, hz⟩
    · obtain ⟨x', hx', hfx'⟩ := ih hzs hy
      exact ⟨x', List.mem_cons_of_mem x hx', hfx'⟩

/-- An effect that fails on no record does not fail. -/
theorem exists_mapM {β : Type*} {f : α → Option β} {xs : List α}
    (h : ∀ x ∈ xs, ∃ y, f x = some y) : ∃ ys, xs.mapM f = some ys := by
  induction xs with
  | nil => exact ⟨[], rfl⟩
  | cons x xs ih =>
    obtain ⟨y, hy⟩ := h x List.mem_cons_self
    obtain ⟨ys, hys⟩ := ih fun z hz => h z (List.mem_cons_of_mem x hz)
    exact ⟨y :: ys, by rw [List.mapM_cons, hy, hys]; rfl⟩

/-- An effect that never fails is a function. -/
theorem mapM_map_some {β γ : Type*} (f : α → β) (g : β → Option γ) (h : α → γ)
    (hfg : ∀ x, g (f x) = some (h x)) (xs : List α) : (xs.map f).mapM g = some (xs.map h) := by
  induction xs with
  | nil => rfl
  | cons x xs ih =>
    rw [List.map_cons, List.mapM_cons, hfg, ih]
    rfl

/-- What is made of records keeps a field of them. -/
theorem map_mapM {β γ : Type*} {f : α → Option β} {field : α → γ} {field' : β → γ}
    (hkeep : ∀ x y, f x = some y → field' y = field x) {xs : List α} {ys : List β}
    (h : xs.mapM f = some ys) : ys.map field' = xs.map field := by
  induction xs generalizing ys with
  | nil =>
    cases h
    rfl
  | cons x xs ih =>
    obtain ⟨y, hy, zs, hzs, rfl⟩ := mapM_cons_eq_some.mp h
    rw [List.map_cons, List.map_cons, hkeep x y hy, ih hzs]

/-- What is made of records in an order stands in the same order. -/
theorem pairwise_mapM {β : Type*} {f : α → Option β} {R : α → α → Prop} {S : β → β → Prop}
    {xs : List α} {ys : List β} (hR : ∀ x ∈ xs, ∀ x' ∈ xs, ∀ y y', f x = some y → f x' = some y' →
      R x x' → S y y') (h : xs.mapM f = some ys) (hxs : xs.Pairwise R) : ys.Pairwise S := by
  induction xs generalizing ys with
  | nil =>
    cases h
    exact List.Pairwise.nil
  | cons x xs ih =>
    obtain ⟨z, hz, zs, hzs, rfl⟩ := mapM_cons_eq_some.mp h
    obtain ⟨hfirst, hrest⟩ := List.pairwise_cons.mp hxs
    refine List.pairwise_cons.mpr ⟨fun y hy => ?_, ih ?_ hzs hrest⟩
    · obtain ⟨x', hx', hfx'⟩ := exists_of_mem_mapM hzs hy
      exact hR x List.mem_cons_self x' (List.mem_cons_of_mem x hx') z y hz hfx' (hfirst x' hx')
    · intro a ha b hb
      exact hR a (List.mem_cons_of_mem x ha) b (List.mem_cons_of_mem x hb)

end Records
