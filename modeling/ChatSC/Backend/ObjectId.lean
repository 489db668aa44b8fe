import ChatSC.ForStd.JsString

/-!
# Object ids

An `ObjectId` is twelve bytes, here as their 24 hex digits.  `new Types.ObjectId(s)` accepts the 24
digits in either case and throws on every other string; `toString` writes them in lower case.
-/

namespace ChatSC.Backend

/-- `Types.ObjectId` -/
structure ObjectId where
  digits : List (Fin 16)
  length_eq : digits.length = 24
deriving DecidableEq

namespace ObjectId

instance : NeZero 16 := ⟨by decide⟩

/-- The value of a hex digit. -/
def hexValue (u : UInt16) : Option (Fin 16) :=
  if 48 ≤ u.toNat ∧ u.toNat ≤ 57 then some (Fin.ofNat 16 (u.toNat - 48))
  else if 97 ≤ u.toNat ∧ u.toNat ≤ 102 then some (Fin.ofNat 16 (u.toNat - 87))
  else if 65 ≤ u.toNat ∧ u.toNat ≤ 70 then some (Fin.ofNat 16 (u.toNat - 55))
  else none

/-- A hex digit in lower case. -/
def hexDigit (d : Fin 16) : UInt16 :=
  if d.val < 10 then UInt16.ofNat (d.val + 48) else UInt16.ofNat (d.val + 87)

/-- `new Types.ObjectId(s)`; `none` when it throws, which is when `Types.ObjectId.isValid(s)` is
    false. -/
def ofString? (s : JsString) : Option ObjectId :=
  (s.mapM hexValue).bind fun digits =>
    if h : digits.length = 24 then some ⟨digits, h⟩ else none

/-- `id.toString()` -/
def toString (id : ObjectId) : JsString := id.digits.map hexDigit

@[ext] protected theorem ext {a b : ObjectId} (h : a.digits = b.digits) : a = b := by
  cases a; cases b; cases h; rfl

theorem hexValue_hexDigit (d : Fin 16) : hexValue (hexDigit d) = some d := by
  revert d
  decide

/-- An id is read back from its string. -/
@[simp] theorem ofString?_toString (id : ObjectId) : ofString? id.toString = some id := by
  have hdigits : id.toString.mapM hexValue = some id.digits := by
    unfold toString
    induction id.digits with
    | nil => rfl
    | cons d digits ih => simp [List.mapM_cons, hexValue_hexDigit, ih]
  simp [ofString?, hdigits, id.length_eq]

/-- Ids with the same string are the same. -/
theorem toString_injective {a b : ObjectId} (h : a.toString = b.toString) : a = b := by
  apply Option.some.inj
  rw [← ofString?_toString a, h, ofString?_toString]

theorem toString_inj {a b : ObjectId} : a.toString = b.toString ↔ a = b :=
  ⟨toString_injective, congrArg toString⟩

/-- A string that is accepted starts with a hex digit. -/
theorem exists_cons_of_ofString? {s : JsString} {id : ObjectId} (h : ofString? s = some id) :
    ∃ u rest, s = u :: rest ∧ (hexValue u).isSome := by
  cases s with
  | nil => cases h
  | cons u rest =>
    refine ⟨u, rest, rfl, ?_⟩
    cases hu : hexValue u with
    | none => simp [ofString?, hu] at h
    | some d => rfl

end ObjectId

end ChatSC.Backend
