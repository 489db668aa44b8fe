import Mathlib.Data.List.Perm.Basic

/-!
# Rows with keys

A view shows records as rows, each a key and a value, in an order that may change with every update.
`Sets` says that an update sets the value of one key, wherever it stands; `SameElsewhere` says only
that it leaves all other rows as they are.
-/

namespace Keyed

variable {κ α : Type*}

/-- The rows that show one field of the records. -/
def rowsOf {β : Type*} (keyOf : β → κ) (field : β → α) (records : List β) : List (κ × α) :=
  records.map fun record => (keyOf record, field record)

/-- Rows with other keys were there before, and the keys are the same. -/
structure SameElsewhere (key : κ) (rows rows' : List (κ × α)) : Prop where
  elsewhere : ∀ other value, other ≠ key → (other, value) ∈ rows' → (other, value) ∈ rows
  keys : ∀ other, other ∈ rows'.map Prod.fst ↔ other ∈ rows.map Prod.fst

variable {key : κ} {value : α} {rows rows' rows'' : List (κ × α)}

theorem SameElsewhere.refl (key : κ) (rows : List (κ × α)) : SameElsewhere key rows rows :=
  ⟨fun _ _ _ h => h, fun _ => Iff.rfl⟩

theorem SameElsewhere.trans (h : SameElsewhere key rows rows')
    (h' : SameElsewhere key rows' rows'') : SameElsewhere key rows rows'' where
  elsewhere other v hne hmem := h.elsewhere other v hne (h'.elsewhere other v hne hmem)
  keys other := (h'.keys other).trans (h.keys other)

theorem mem_fst_rowsOf {β : Type*} {keyOf : β → κ} {field : β → α} {records : List β} {other : κ} :
    other ∈ (rowsOf keyOf field records).map Prod.fst ↔ ∃ record ∈ records, keyOf record = other := by
  simp [rowsOf]

/-! ## After an update -/

variable [DecidableEq κ]

/-- The row with the value of the key set. -/
def setAt (key : κ) (value : α) (row : κ × α) : κ × α := if row.1 = key then (key, value) else row

/-- The rows are those from before, in any order, with the value of the key set. -/
def Sets (key : κ) (value : α) (rows rows' : List (κ × α)) : Prop :=
  rows'.Perm (rows.map (setAt key value))

theorem fst_setAt (key : κ) (value : α) (row : κ × α) : (setAt key value row).1 = row.1 := by
  unfold setAt
  split
  · rename_i h
    exact h.symm
  · rfl

/-- The keys are the same. -/
theorem Sets.mem_fst_iff (h : Sets key value rows rows') (other : κ) :
    other ∈ rows'.map Prod.fst ↔ other ∈ rows.map Prod.fst := by
  have hfst : (rows'.map Prod.fst).Perm (rows.map Prod.fst) := by
    have hmap := h.map Prod.fst
    rw [List.map_map] at hmap
    rwa [show Prod.fst ∘ setAt key value = Prod.fst from funext (fst_setAt key value)] at hmap
  exact hfst.mem_iff

/-- Rows with other keys stay. -/
theorem Sets.mem_of_ne (h : Sets key value rows rows') {other : κ} {v : α} (hne : other ≠ key)
    (hmem : (other, v) ∈ rows') : (other, v) ∈ rows := by
  obtain ⟨row, hrow, heq⟩ := List.mem_map.mp (h.mem_iff.mp hmem)
  unfold setAt at heq
  split at heq
  · cases heq
    exact absurd rfl hne
  · exact heq ▸ hrow

/-- The value is set. -/
theorem Sets.eq_of_mem (h : Sets key value rows rows') {v : α} (hmem : (key, v) ∈ rows') :
    v = value := by
  obtain ⟨row, -, heq⟩ := List.mem_map.mp (h.mem_iff.mp hmem)
  unfold setAt at heq
  split at heq
  · cases heq
    rfl
  · rename_i hne
    exact absurd (congrArg Prod.fst heq) hne

theorem Sets.sameElsewhere (h : Sets key value rows rows') : SameElsewhere key rows rows' where
  elsewhere _ _ hne hmem := h.mem_of_ne hne hmem
  keys := h.mem_fst_iff

/-! ## Rows of records -/

section Records

variable {β : Type*} {keyOf : β → κ} {field : β → α} {change : β → β} {records records' : List β}

/-- The records with a key are changed, in any order, and keep their key. -/
structure Changes (keyOf : β → κ) (key : κ) (change : β → β) (records records' : List β) :
    Prop where
  perm : records'.Perm (records.map fun record =>
    if keyOf record = key then change record else record)
  keeps : ∀ record, keyOf (change record) = keyOf record

/-- Without a record with the key nothing is changed. -/
theorem Changes.of_notMem (h : ∀ record ∈ records, keyOf record ≠ key)
    (hkeeps : ∀ record, keyOf (change record) = keyOf record) :
    Changes keyOf key change records records := by
  refine ⟨List.Perm.of_eq ?_, hkeeps⟩
  conv_lhs => rw [← List.map_id records]
  apply List.map_congr_left
  intro record hrecord
  rw [if_neg (h record hrecord), id]

/-- A field that the change sets. -/
theorem Changes.sets (h : Changes keyOf key change records records')
    (hfield : ∀ record, keyOf record = key → field (change record) = value) :
    Sets key value (rowsOf keyOf field records) (rowsOf keyOf field records') := by
  refine (h.perm.map _).trans (List.Perm.of_eq ?_)
  rw [List.map_map, rowsOf, List.map_map]
  apply List.map_congr_left
  intro record _
  by_cases hkey : keyOf record = key
  · simp [setAt, hkey, h.keeps, hfield record hkey]
  · simp [setAt, hkey]

/-- A field that the change leaves alone. -/
theorem Changes.rows_perm (h : Changes keyOf key change records records')
    (hfield : ∀ record, field (change record) = field record) :
    (rowsOf keyOf field records').Perm (rowsOf keyOf field records) := by
  refine (h.perm.map _).trans (List.Perm.of_eq ?_)
  rw [List.map_map, rowsOf]
  apply List.map_congr_left
  intro record _
  by_cases hkey : keyOf record = key
  · simp [hkey, h.keeps, hfield]
  · simp [hkey]

/-- Whatever is changed, the records with other keys stay. -/
theorem Changes.sameElsewhere (h : Changes keyOf key change records records') :
    SameElsewhere key (rowsOf keyOf field records) (rowsOf keyOf field records') := by
  have hmem : ∀ record', record' ∈ records' ↔ ∃ record ∈ records,
      (if keyOf record = key then change record else record) = record' := by
    intro record'
    rw [h.perm.mem_iff, List.mem_map]
  have hkey : ∀ record,
      keyOf (if keyOf record = key then change record else record) = keyOf record := by
    intro record
    split
    · exact h.keeps record
    · rfl
  constructor
  · intro other v hne hrow
    obtain ⟨record', hrecord', heq⟩ := List.mem_map.mp hrow
    obtain ⟨rfl, rfl⟩ := Prod.mk.inj heq
    obtain ⟨record, hrecord, rfl⟩ := (hmem record').mp hrecord'
    rw [hkey] at hne
    rw [if_neg hne]
    exact List.mem_map_of_mem hrecord
  · intro other
    rw [mem_fst_rowsOf, mem_fst_rowsOf]
    constructor
    · rintro ⟨record', hrecord', rfl⟩
      obtain ⟨record, hrecord, rfl⟩ := (hmem record').mp hrecord'
      exact ⟨record, hrecord, (hkey record).symm⟩
    · rintro ⟨record, hrecord, rfl⟩
      exact ⟨_, (hmem _).mpr ⟨record, hrecord, rfl⟩, hkey record⟩

end Records

end Keyed
