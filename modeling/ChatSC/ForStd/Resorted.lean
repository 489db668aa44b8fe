import ChatSC.ForStd.Pagination
import ChatSC.ForStd.SortedLists

/-!
# A list that is sorted again after each update

Every update changes the records of one id and sorts the whole list, greatest key first.  After a list
of updates the records are those from before, each with its own updates in their order
(`perm_foldl_update`).  The records without an update only are sorted once
(`filter_foldl_update`), since the sort is stable.  So the list does not depend on how the updates
of different ids are interleaved, provided no updated record ends with the key of another one
(`foldl_update_congr`).
-/

namespace Resorted

open Pagination SortedLists

variable {α β ι κ : Type*} [DecidableEq ι]

/-- Records with an id and a key, and updates that have the id of the record they change. -/
structure Updates (α β ι κ : Type*) where
  id : α → ι
  key : α → κ
  target : β → ι
  change : β → α → α
  id_change : ∀ b x, id (change b x) = id x

namespace Updates

variable (u : Updates α β ι κ)

/-- An update of one record. -/
def apply (b : β) (x : α) : α := if u.id x = u.target b then u.change b x else x

/-- What the updates make of a record. -/
def final (bs : List β) (x : α) : α := bs.foldl (fun x b => u.apply b x) x

variable {u} {xs : List α} {bs bs' : List β} {x : α}

theorem id_apply (b : β) (x : α) : u.id (u.apply b x) = u.id x := by
  unfold apply
  split
  · exact u.id_change b x
  · rfl

theorem id_final (bs : List β) (x : α) : u.id (u.final bs x) = u.id x := by
  induction bs generalizing x with
  | nil => rfl
  | cons b bs ih => exact (ih _).trans (id_apply b x)

/-- Only the updates of its own id count for a record. -/
theorem final_filter (bs : List β) (x : α) :
    u.final bs x = u.final (bs.filter fun b => u.target b = u.id x) x := by
  induction bs generalizing x with
  | nil => rfl
  | cons b bs ih =>
    have hrest := ih (u.apply b x)
    rw [id_apply] at hrest
    rw [List.filter_cons]
    by_cases htarget : u.target b = u.id x
    · rw [if_pos (decide_eq_true htarget)]
      exact hrest
    -- an update of another id leaves the record alone
    · have happly : u.apply b x = x := if_neg (Ne.symm htarget)
      rw [happly] at hrest
      rw [if_neg (by simpa using htarget), final, List.foldl_cons, happly]
      exact hrest

theorem final_of_notMem (h : u.id x ∉ bs.map u.target) : u.final bs x = x := by
  have hnone : bs.filter (fun b => u.target b = u.id x) = [] := by
    rw [List.filter_eq_nil_iff]
    intro b hb htarget
    exact h (List.mem_map.mpr ⟨b, hb, of_decide_eq_true htarget⟩)
  rw [final_filter, hnone]
  rfl

variable [LinearOrder κ]

variable (u) in
/-- An update of a list. -/
def update (xs : List α) (b : β) : List α := newestFirst u.key (xs.map (u.apply b))

/-- After the updates the records are those from before, each with its own updates. -/
theorem perm_foldl_update (xs : List α) (bs : List β) :
    (bs.foldl u.update xs).Perm (xs.map (u.final bs)) := by
  induction bs generalizing xs with
  | nil => exact .of_eq (List.map_id' xs).symm
  | cons b bs ih =>
    refine (ih _).trans ?_
    have hmap : xs.map (u.final (b :: bs)) = (xs.map (u.apply b)).map (u.final bs) := by
      rw [List.map_map]
      rfl
    rw [hmap]
    exact (perm_newestFirst u.key _).map _

/-- After an update the list is sorted. -/
theorem pairwise_foldl_update (xs : List α) (h : bs ≠ []) :
    (bs.foldl u.update xs).Pairwise fun x y => u.key y ≤ u.key x := by
  obtain ⟨bs, b, rfl⟩ := List.eq_nil_or_concat bs |>.resolve_left h
  rw [List.concat_eq_append, List.foldl_concat]
  exact pairwise_newestFirst _ _

omit [LinearOrder κ] in
/-- An update does not show where its target is filtered out. -/
theorem filter_map_apply (xs : List α) {b : β} {p : ι → Bool} (hp : p (u.target b) = false) :
    (xs.map (u.apply b)).filter (fun x => p (u.id x)) = xs.filter fun x => p (u.id x) := by
  induction xs with
  | nil => rfl
  | cons x xs ih =>
    rw [List.map_cons, List.filter_cons, List.filter_cons, id_apply, ih]
    split
    · next hx =>
      have hne : u.id x ≠ u.target b := fun heq => by
        rw [heq, hp] at hx
        exact Bool.false_ne_true hx
      rw [apply, if_neg hne]
    · rfl

/-- The records without an update are sorted, once. -/
theorem filter_foldl_update (xs : List α) (h : bs ≠ []) {p : ι → Bool}
    (hp : ∀ b ∈ bs, p (u.target b) = false) :
    (bs.foldl u.update xs).filter (fun x => p (u.id x)) =
      newestFirst u.key (xs.filter fun x => p (u.id x)) := by
  induction bs generalizing xs with
  | nil => exact absurd rfl h
  | cons b bs ih =>
    obtain ⟨hb, hbs⟩ := List.forall_mem_cons.mp hp
    have hstep : (u.update xs b).filter (fun x => p (u.id x)) =
        newestFirst u.key (xs.filter fun x => p (u.id x)) := by
      rw [update, newestFirst, filter_insertionSort, filter_map_apply xs hb, ← newestFirst]
    cases bs with
    | nil => exact hstep
    | cons c bs =>
      rw [List.foldl_cons, ih _ (List.cons_ne_nil c bs) hbs, hstep]
      -- what is sorted stays as it is
      exact (pairwise_newestFirst u.key _).insertionSort_eq

/-- The ids stay. -/
theorem perm_id_foldl_update (xs : List α) (bs : List β) :
    ((bs.foldl u.update xs).map u.id).Perm (xs.map u.id) := by
  have hids := (perm_foldl_update (u := u) xs bs).map u.id
  have hid : u.id ∘ u.final bs = u.id := funext (id_final bs)
  rwa [List.map_map, hid] at hids

/-- Of the order of the updates, the records depend on that of the updates of each id only. -/
theorem perm_foldl_update_congr (xs : List α)
    (hfilter : ∀ i, (bs'.filter fun b => u.target b = i) = bs.filter fun b => u.target b = i) :
    (bs'.foldl u.update xs).Perm (bs.foldl u.update xs) := by
  have hfinal : u.final bs' = u.final bs := by
    funext x
    rw [final_filter bs', hfilter, ← final_filter]
  have hperm := perm_foldl_update (u := u) xs bs'
  rw [hfinal] at hperm
  exact hperm.trans (perm_foldl_update xs bs).symm

omit [LinearOrder κ] in
theorem mem_map_target_iff {i : ι} :
    i ∈ bs.map u.target ↔ (bs.filter fun b => u.target b = i) ≠ [] := by
  rw [List.mem_map, ne_eq, List.filter_eq_nil_iff]
  simp only [decide_eq_true_eq, not_forall, not_not, exists_prop]

/-- At the key of an updated record there is this record only. -/
theorem filter_eq_singleton {q : α → Bool} (hnodup : xs.Nodup) (hx : x ∈ xs) (hq : q x = true)
    (honly : ∀ y ∈ xs, q y = true → y = x) : xs.filter q = [x] := by
  rw [← List.perm_singleton, List.perm_ext_iff_of_nodup (hnodup.filter q) (List.nodup_singleton x)]
  intro y
  rw [List.mem_filter, List.mem_singleton]
  refine ⟨fun hy => honly y hy.1 hy.2, ?_⟩
  rintro rfl
  exact ⟨hx, hq⟩

/-- Where every updated record ends with a key of its own, only the updates of each id count. -/
theorem foldl_update_congr (xs : List α) (hnodup : (xs.map u.id).Nodup)
    (hfilter : ∀ i, (bs'.filter fun b => u.target b = i) = bs.filter fun b => u.target b = i)
    (hkey : ∀ x ∈ bs.foldl u.update xs, u.id x ∈ bs.map u.target →
      ∀ y ∈ bs.foldl u.update xs, u.key x = u.key y → x = y) :
    bs'.foldl u.update xs = bs.foldl u.update xs := by
  -- both results are sorted, so it is enough that they agree at every key
  have htargets (i : ι) : i ∈ bs'.map u.target ↔ i ∈ bs.map u.target := by
    rw [mem_map_target_iff, hfilter, ← mem_map_target_iff]
  have hperm := perm_foldl_update_congr (u := u) xs hfilter
  rcases eq_or_ne bs [] with rfl | hbs
  · -- there are no updates at all
    have hnone : bs' = [] := List.map_eq_nil_iff.mp
      (List.eq_nil_iff_forall_not_mem.mpr fun i hi => List.not_mem_nil ((htargets i).mp hi))
    rw [hnone]
  have hbs' : bs' ≠ [] := by
    rintro rfl
    obtain ⟨b, hb⟩ := List.exists_mem_of_ne_nil bs hbs
    exact List.not_mem_nil ((htargets (u.target b)).mpr (List.mem_map_of_mem hb))
  have hrecords : (bs.foldl u.update xs).Nodup :=
    ((perm_id_foldl_update xs bs).nodup_iff.mpr hnodup).of_map
  refine eq_of_filter_key (pairwise_foldl_update xs hbs') (pairwise_foldl_update xs hbs) fun k => ?_
  by_cases hupdated : ∃ x ∈ bs.foldl u.update xs, u.id x ∈ bs.map u.target ∧ u.key x = k
  · obtain ⟨x, hx, htarget, rfl⟩ := hupdated
    -- an updated record is alone at its key, in both results
    have honly (y : α) (hy : y ∈ bs.foldl u.update xs) (hq : u.key y = u.key x) : y = x :=
      (hkey x hx htarget y hy hq.symm).symm
    rw [filter_eq_singleton hrecords hx (decide_eq_true rfl)
        fun y hy hq => honly y hy (of_decide_eq_true hq),
      filter_eq_singleton (hperm.nodup_iff.mpr hrecords) (hperm.mem_iff.mpr hx) (decide_eq_true rfl)
        fun y hy hq => honly y (hperm.mem_iff.mp hy) (of_decide_eq_true hq)]
  · -- all records at this key are without an update, and these are sorted once
    let p (i : ι) : Bool := i ∉ bs.map u.target
    have hplain {ys : List α} (hys : ys.Perm (bs.foldl u.update xs)) :
        ys.filter (fun x => u.key x = k) =
          (ys.filter fun x => p (u.id x)).filter fun x => u.key x = k := by
      rw [List.filter_filter]
      refine List.filter_congr fun x hx => ?_
      by_cases hk : u.key x = k
      · have hx' : u.id x ∉ bs.map u.target :=
          fun htarget => hupdated ⟨x, hys.mem_iff.mp hx, htarget, hk⟩
        rw [decide_eq_true hk, Bool.true_and]
        exact (decide_eq_true hx').symm
      · rw [decide_eq_false hk, Bool.false_and]
    have hp : ∀ b ∈ bs, p (u.target b) = false :=
      fun b hb => decide_eq_false (not_not_intro (List.mem_map_of_mem hb))
    have hp' : ∀ b ∈ bs', p (u.target b) = false := fun b hb =>
      decide_eq_false (not_not_intro ((htargets _).mp (List.mem_map_of_mem hb)))
    rw [hplain hperm, hplain (.refl _), filter_foldl_update xs hbs hp, filter_foldl_update xs hbs' hp']

end Updates

end Resorted
