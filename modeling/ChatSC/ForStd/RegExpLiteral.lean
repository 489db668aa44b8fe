import Mathlib.Data.List.Basic
import Mathlib.Data.List.Induction
import ChatSC.ForStd.RegExpMatch

/-!
# Literal text as a pattern

`escape` puts a backslash before every `SyntaxCharacter`.  A pattern made of escaped text is read as the
characters of the text, one after the other (`parse_escape`), also in a group of its own
(`parse_escape_group`), and it is found in what contains the text up to the folding of the flags
(`test_iff`).
-/

namespace RegExp

open JsString

/-- `SyntaxCharacter` -/
def syntaxUnits : JsString :=
  [unit '^', unit '$', unit '\\', unit '.', unit '*', unit '+', unit '?', unit '(', unit ')', unit '[',
    unit ']', unit '\x7b', unit '\x7d', unit '|']

/-- A character that stands for itself. -/
def escapeUnit (u : UInt16) : JsString := if u ∈ syntaxUnits then [unit '\\', u] else [u]

/-- A text that stands for itself. -/
def escape (text : JsString) : JsString := text.flatMap escapeUnit

@[simp] theorem escape_nil : escape [] = [] := rfl

@[simp] theorem escape_cons (u : UInt16) (text : JsString) :
    escape (u :: text) = escapeUnit u ++ escape text := rfl

/-- Terms and then the characters of a text. -/
def appendLiteral (node : Node) (text : JsString) : Node :=
  text.foldl (fun node u => .seq node (.char u)) node

/-- The characters of a text, one after the other. -/
def literal (text : JsString) : Node := appendLiteral .empty text

theorem literal_concat (text : JsString) (u : UInt16) :
    literal (text ++ [u]) = .seq (literal text) (.char u) := by
  simp [literal, appendLiteral]

/-! ## Terms -/

section Terms

variable {grammar : Grammar} {u : UInt16} {rest : JsString}

/-- A character that is no `SyntaxCharacter` is a term. -/
theorem simpleTerm_of_notMem (h : u ∉ syntaxUnits) :
    simpleTerm grammar u rest = some ((.char u, true), rest) := by
  simp only [syntaxUnits, List.mem_cons, List.not_mem_nil, or_false, not_or] at h
  simp [simpleTerm, h]

/-- No escape but the one for itself begins with a `SyntaxCharacter`. -/
theorem syntaxUnits_spec : ∀ u ∈ syntaxUnits,
    isDecimalDigit u = false ∧ isOctalDigit u = false ∧ characterClassEscape u = none ∧
      controlEscapes.lookup u = none ∧
      u ∉ [unit 'b', unit 'B', unit 'c', unit 'k', unit 'x', unit 'u'] := by
  rw [← List.forall_iff_forall_mem]
  decide

/-- A `SyntaxCharacter` behind a backslash is a term. -/
theorem simpleTerm_of_mem (h : u ∈ syntaxUnits) :
    simpleTerm grammar (unit '\\') (u :: rest) = some ((.char u, true), rest) := by
  obtain ⟨hdecimal, hoctal, hclass, hcontrol, hletters⟩ := syntaxUnits_spec u h
  simp only [List.mem_cons, List.not_mem_nil, or_false, not_or] at hletters
  obtain ⟨hb, hB, hc, hk, hx, hu⟩ := hletters
  -- it is no digit, no letter of a class and no control escape: only `IdentityEscape` is left
  have hreference : decimalEscape grammar (u :: rest) = none := by
    simp [decimalEscape, decimalDigits, hdecimal]
  have hcharacter : characterEscape grammar.namedGroups (u :: rest) = some (u, rest) := by
    simp [characterEscape, hcontrol, hc, hoctal, hx, hu, hk]
  have hatom : atomEscape grammar (u :: rest) = some (.char u, rest) := by
    simp [atomEscape, hreference, hclass, hk, hcharacter]
  have hcaret : unit '\\' ≠ unit '^' := by decide
  have hdollar : unit '\\' ≠ unit '$' := by decide
  rw [simpleTerm, if_neg hcaret, if_neg hdollar, if_pos rfl]
  simp [hb, hB, hc, hatom]

/-- Text that does not begin with a quantifier. -/
def Unquantified (input : JsString) : Prop :=
  ∀ u ∈ input.head?, u ∉ [unit '*', unit '+', unit '?', unit '\x7b']

theorem quantify_of_unquantified (h : Unquantified rest) (before count : Nat) (node : Node) :
    quantify before count node rest = some (node, rest) := by
  have hprefix : quantifierPrefix rest = none := by
    cases rest with
    | nil => rfl
    | cons u rest =>
      have hu := h u rfl
      simp only [List.mem_cons, List.not_mem_nil, or_false, not_or] at hu
      simp [quantifierPrefix, hu]
  rw [quantify, hprefix]

theorem unquantified_nil : Unquantified [] := fun _ h => nomatch h

theorem unquantified_close : Unquantified [unit ')'] := by
  intro u hu
  obtain rfl : unit ')' = u := Option.some.inj hu
  decide

/-- Escaped text begins with no quantifier. -/
theorem unquantified_escape {tail : JsString} (htail : Unquantified tail) (text : JsString) :
    Unquantified (escape text ++ tail) := by
  cases text with
  | nil => exact htail
  | cons u text =>
    rw [escape_cons, escapeUnit]
    split
    -- the quantifiers are among the escaped units, so a unit that stands for itself is none of them
    · intro v hv
      obtain rfl : unit '\\' = v := Option.some.inj hv
      decide
    · rename_i hu
      intro v hv
      obtain rfl : u = v := Option.some.inj hv
      have hquantifiers : [unit '*', unit '+', unit '?', unit '\x7b'] ⊆ syntaxUnits := by decide
      exact fun hmem => hu (hquantifiers hmem)

end Terms

/-! ## The loop -/

section Loop

variable {grammar : Grammar} {stack : List Frame} {alternatives : List Node} {current : Node}
  {groups : Nat} {u : UInt16} {rest : JsString}

/-- A step of the loop at a character that stands for itself. -/
theorem terms_simple {node : Node} {after : JsString}
    (hu : u ∉ [unit '|', unit '(', unit ')'])
    (hterm : simpleTerm grammar u rest = some ((node, true), after)) (hafter : Unquantified after)
    (fuel : Nat) :
    terms grammar (fuel + 1) stack alternatives current groups (u :: rest) =
      terms grammar fuel stack alternatives (.seq current node) groups after := by
  simp only [List.mem_cons, List.not_mem_nil, or_false, not_or] at hu
  simp [terms, hu, hterm, quantify_of_unquantified hafter]

variable (grammar stack alternatives groups) in
/-- Escaped text adds its characters to the terms. -/
theorem terms_escape {tail : JsString} (htail : Unquantified tail) (text : JsString) (fuel : Nat) :
    ∀ current, terms grammar (fuel + text.length) stack alternatives current groups
        (escape text ++ tail) =
      terms grammar fuel stack alternatives (appendLiteral current text) groups tail := by
  induction text with
  | nil => exact fun _ => rfl
  | cons u text ih =>
    intro current
    have hrest := unquantified_escape htail text
    have hnode : appendLiteral current (u :: text) = appendLiteral (.seq current (.char u)) text :=
      rfl
    rw [escape_cons, List.length_cons, ← Nat.add_assoc, hnode, ← ih, escapeUnit]
    split
    · -- an escape
      rename_i hu
      exact terms_simple (by decide) (simpleTerm_of_mem hu) hrest _
    · -- a character that is none of the three that the loop looks at
      rename_i hu
      refine terms_simple (fun hmem => hu ?_) (simpleTerm_of_notMem hu) hrest _
      have hends : [unit '|', unit '(', unit ')'] ⊆ syntaxUnits := by decide
      exact hends hmem

/-- Escaped text opens no group. -/
theorem countGroups_escape (text tail : JsString) :
    countGroups false (escape text ++ tail) = countGroups false tail := by
  induction text with
  | nil => rfl
  | cons u text ih =>
    rw [escape_cons, escapeUnit, List.append_assoc]
    generalize escape text ++ tail = rest at ih
    -- a backslash hides the unit behind it, and an unescaped one is neither a parenthesis nor a bracket
    split
    · simpa [countGroups] using ih
    · rename_i hu
      simp only [syntaxUnits, List.mem_cons, List.not_mem_nil, or_false, not_or] at hu
      rw [← ih]
      cases rest with
      | nil => simp [countGroups, hu]
      | cons v rest => simp [countGroups, hu]

end Loop

/-! ## Patterns -/

theorem names_appendLiteral (text : JsString) :
    ∀ node : Node, (appendLiteral node text).names = node.names := by
  induction text with
  | nil => exact fun _ => rfl
  | cons u text ih =>
    intro node
    have hnode : appendLiteral node (u :: text) = appendLiteral (.seq node (.char u)) text := rfl
    rw [hnode, ih, Node.names]
    exact List.append_nil _

theorem resolve_appendLiteral (text : JsString) (names : List (Name × Nat)) :
    ∀ node : Node, node.resolve names = some node →
      (appendLiteral node text).resolve names = some (appendLiteral node text) := by
  induction text with
  | nil => exact fun _ h => h
  | cons u text ih =>
    intro node h
    have hnode : appendLiteral node (u :: text) = appendLiteral (.seq node (.char u)) text := rfl
    rw [hnode]
    apply ih
    simp [Node.resolve, h]

theorem length_le_escape (text : JsString) : text.length ≤ (escape text).length := by
  induction text with
  | nil => exact Nat.le_refl 0
  | cons u text ih =>
    rw [escape_cons, List.length_append, List.length_cons, escapeUnit]
    split <;> simp only [List.length_cons, List.length_nil] <;> omega

variable (isIdStart isIdContinue : Nat → Bool)

/-- A pattern without names is what its terms are. -/
theorem parse_of_terms {pattern : JsString} {node : Node} {groupCount : Nat}
    (hcount : countGroups false pattern = groupCount) (hfew : groupCount < 2 ^ 32 - 1)
    (hread : terms ⟨false, groupCount, isIdStart, isIdContinue⟩ (pattern.length + 1) [] [] .empty 0
      pattern = some node)
    (hnames : node.names = []) (hresolve : node.resolve [] = some node) :
    parse isIdStart isIdContinue pattern = some ⟨node, groupCount⟩ := by
  unfold parse
  simp only [hcount, hread, Option.bind_some, hnames, if_true, List.map_nil, List.nodup_nil, true_and,
    hfew, hresolve, Option.map_some]

/-- **Escaped text is a pattern of its characters.** -/
theorem parse_escape (text : JsString) :
    parse isIdStart isIdContinue (escape text) = some ⟨literal text, 0⟩ := by
  have hcount : countGroups false (escape text) = 0 := by
    have h := countGroups_escape text []
    rwa [List.append_nil] at h
  have hread : terms ⟨false, 0, isIdStart, isIdContinue⟩ ((escape text).length + 1) [] [] .empty
      0 (escape text) = some (literal text) := by
    -- a backslash takes no step of its own, so there is fuel left at the end
    have hlength := length_le_escape text
    obtain ⟨fuel, hfuel⟩ : ∃ fuel, (escape text).length + 1 = (fuel + 1) + text.length :=
      ⟨(escape text).length - text.length, by omega⟩
    have h := terms_escape ⟨false, 0, isIdStart, isIdContinue⟩ [] [] 0 unquantified_nil text
      (fuel + 1) .empty
    rw [List.append_nil] at h
    rw [hfuel, h]
    rfl
  exact parse_of_terms _ _ hcount (by decide) hread (names_appendLiteral text .empty)
    (resolve_appendLiteral text [] .empty rfl)

/-! ## A group of a pattern -/

/-- A group of a text, alone. -/
def groupOf (text : JsString) : Node := .seq .empty (.group 1 none (literal text))

/-- Behind the parenthesis of a group of escaped text comes something, and no question mark. -/
theorem exists_cons_escape (text : JsString) :
    ∃ u rest, escape text ++ [unit ')'] = u :: rest ∧ u ≠ unit '?' := by
  have hhead := unquantified_escape unquantified_close text
  cases hinput : escape text ++ [unit ')'] with
  | nil => exact absurd hinput (by simp)
  | cons u rest =>
    rw [hinput] at hhead
    refine ⟨u, rest, rfl, ?_⟩
    rintro rfl
    exact hhead _ rfl (by decide)

/-- A parenthesis before escaped text opens a group that captures. -/
theorem openGroup_escape (grammar : Grammar) (groups : Nat) (text : JsString) :
    openGroup grammar groups (escape text ++ [unit ')']) =
      some (.capturing (groups + 1) none, escape text ++ [unit ')']) := by
  obtain ⟨u, rest, hinput, hu⟩ := exists_cons_escape text
  rw [hinput]
  unfold openGroup
  -- what follows the parenthesis is no question mark, in each of the cases that look for one
  split
  · rename_i heq
    cases heq
    rw [if_pos hu]
  · rename_i heq
    cases heq
    rw [if_pos hu]
  · rename_i heq
    cases heq

/-- That group is the only one. -/
theorem countGroups_group (text : JsString) :
    countGroups false (unit '(' :: (escape text ++ [unit ')'])) = 1 := by
  have hinside := countGroups_escape text [unit ')']
  obtain ⟨u, rest, hinput, hu⟩ := exists_cons_escape text
  rw [hinput] at hinside ⊢
  have hslash : unit '(' ≠ unit '\\' := by decide
  have hbracket : unit '(' ≠ unit '[' := by decide
  have hcaptures : captures (u :: rest) = true := by
    unfold captures
    split <;> simp_all
  rw [countGroups, if_neg hslash, if_neg Bool.false_ne_true, if_neg hbracket, if_pos rfl,
    if_pos hcaptures, hinside]
  decide

/-- The terms of a group of escaped text. -/
theorem terms_group (grammar : Grammar) (text : JsString) :
    terms grammar ((unit '(' :: (escape text ++ [unit ')'])).length + 1) [] [] .empty 0
      (unit '(' :: (escape text ++ [unit ')'])) = some (groupOf text) := by
  -- two more steps of the loop: one for each parenthesis
  have hlength := length_le_escape text
  obtain ⟨fuel, hfuel⟩ : ∃ fuel, (unit '(' :: (escape text ++ [unit ')'])).length + 1 =
      (fuel + 2) + text.length + 1 :=
    ⟨(escape text).length - text.length, by
      rw [List.length_cons, List.length_append, List.length_singleton]
      omega⟩
  rw [hfuel, terms, if_neg (by decide), if_pos rfl, openGroup_escape, Option.bind_some,
    terms_escape _ _ _ _ unquantified_close text (fuel + 2) .empty]
  rfl

/-- **Escaped text in parentheses is a group of its characters.** -/
theorem parse_escape_group (text : JsString) :
    parse isIdStart isIdContinue (unit '(' :: escape text ++ [unit ')']) =
      some ⟨groupOf text, 1⟩ := by
  have hnames : (groupOf text).names = [] := by
    rw [groupOf, Node.names, Node.names, Node.names]
    exact names_appendLiteral text .empty
  have hresolve : (groupOf text).resolve [] = some (groupOf text) := by
    have hliteral : (literal text).resolve [] = some (literal text) :=
      resolve_appendLiteral text [] .empty rfl
    simp [groupOf, Node.resolve, hliteral]
  exact parse_of_terms _ _ (countGroups_group text) (by decide) (terms_group _ text) hnames hresolve

/-! ## Matching -/

section Matching

variable (flags : Flags) (input : JsString)

/-- The text stands in the input from an index on, up to the folding. -/
def StandsAt (text : JsString) (index : Nat) : Prop :=
  ((input.drop index).take text.length).map flags.fold = text.map flags.fold

instance (text : JsString) (index : Nat) : Decidable (StandsAt flags input text index) :=
  inferInstanceAs (Decidable (_ = _))

variable {flags input} in
theorem standsAt_concat {text : JsString} {u : UInt16} {index : Nat} :
    StandsAt flags input (text ++ [u]) index ↔
      StandsAt flags input text index ∧
        ∃ v, input[index + text.length]? = some v ∧ flags.fold u = flags.fold v := by
  rw [StandsAt, StandsAt, List.length_append, List.length_singleton, List.take_add_one,
    List.getElem?_drop, List.map_append, List.map_append]
  cases hv : input[index + text.length]? with
  | none =>
    -- the input is too short
    have hlength : ((input.drop index).take text.length).length ≤ text.length := by
      simp only [List.length_take]
      omega
    constructor
    · intro h
      have hlen := congrArg List.length h
      simp only [Option.toList_none, List.map_nil, List.append_nil, List.length_map,
        List.length_append, List.map_cons, List.length_cons, List.length_nil] at hlen
      omega
    · rintro ⟨-, v, hnone, -⟩
      cases hnone
  | some v =>
    rw [Option.toList_some, List.map_singleton, List.map_singleton, List.append_singleton_inj]
    simp [eq_comm]

/-- A text is matched where it stands. -/
theorem matcher_literal (text : JsString) (x : MatchState) :
    ∀ c : Continuation, (literal text).matcher flags input true x c =
      if StandsAt flags input text x.endIndex then
        c { x with endIndex := x.endIndex + text.length }
      else none := by
  -- on the text from its end: the pattern is read into the first part of a sequence
  induction text using List.reverseRecOn with
  | nil =>
    intro c
    have hhere : StandsAt flags input [] x.endIndex := by simp [StandsAt]
    rw [if_pos hhere]
    rfl
  | append_singleton text u ih =>
    intro c
    rw [literal_concat, matcher_seq, ih]
    by_cases htext : StandsAt flags input text x.endIndex
    · rw [if_pos htext, matcher_char]
      cases hv : input[x.endIndex + text.length]? with
      | none =>
        -- the input has ended
        rw [if_neg]
        intro h
        obtain ⟨-, v, hv', -⟩ := standsAt_concat.mp h
        cases hv.symm.trans hv'
      | some v =>
        have hiff : StandsAt flags input (text ++ [u]) x.endIndex ↔ flags.fold u = flags.fold v := by
          rw [standsAt_concat, hv]
          simp [htext]
        simp only [hiff, List.length_append, List.length_singleton, Nat.add_assoc]
    · rw [if_neg htext, if_neg fun h => htext (standsAt_concat.mp h).1]

end Matching

/-- The text is in the input, up to a folding. -/
def ContainsUpTo (fold : UInt16 → UInt16) (input text : JsString) : Prop :=
  ∃ before middle after, input = before ++ middle ++ after ∧ middle.map fold = text.map fold

theorem containsUpTo_iff {flags : Flags} {input text : JsString} :
    ContainsUpTo flags.fold input text ↔
      ∃ index ≤ input.length, StandsAt flags input text index := by
  constructor
  · rintro ⟨before, middle, after, rfl, hmiddle⟩
    refine ⟨before.length, by simp, ?_⟩
    have hlength : middle.length = text.length := by
      simpa using congrArg List.length hmiddle
    rw [StandsAt, List.append_assoc, List.drop_left, ← hlength, List.take_left, hmiddle]
  · rintro ⟨index, -, h⟩
    refine ⟨input.take index, (input.drop index).take text.length,
      (input.drop index).drop text.length, ?_, h⟩
    rw [List.append_assoc, List.take_append_drop, List.take_append_drop]

/-- A regular expression that matches where the text stands is found in what contains the text. -/
theorem test_iff {r : Object} {text : JsString} {input : JsString}
    (hmatch : ∀ index, (r.matchAt input index).isSome ↔ StandsAt r.flags input text index) :
    r.test input = true ↔ ContainsUpTo r.flags.fold input text := by
  rw [containsUpTo_iff, Object.test, Object.exec, List.findSome?_isSome_iff]
  constructor
  · rintro ⟨index, hindex, hsome⟩
    rw [Option.isSome_map, hmatch] at hsome
    rw [List.mem_range'_1] at hindex
    exact ⟨index, by omega, hsome⟩
  · rintro ⟨index, hle, hstands⟩
    refine ⟨index, List.mem_range'_1.mpr (by omega), ?_⟩
    rw [Option.isSome_map, hmatch]
    exact hstands

/-- Where a text matches, and the end of the match. -/
theorem matchAt_literal (flags : Flags) (text input : JsString) (index : Nat) :
    Object.matchAt ⟨⟨literal text, 0⟩, flags⟩ input index =
      if StandsAt flags input text index then some ⟨index + text.length, []⟩ else none :=
  matcher_literal flags input text ⟨index, []⟩ some

/-- Where a group of a text matches, its end, and what it captures. -/
theorem matchAt_groupOf (flags : Flags) (text input : JsString) (index : Nat) :
    Object.matchAt ⟨⟨groupOf text, 1⟩, flags⟩ input index =
      if StandsAt flags input text index then
        some ⟨index + text.length, [some (index, index + text.length)]⟩
      else none := by
  have hmin : Nat.min index (index + text.length) = index := Nat.min_eq_left (by omega)
  have hmax : Nat.max index (index + text.length) = index + text.length :=
    Nat.max_eq_right (by omega)
  simp only [Object.matchAt, groupOf, Node.matcher, if_pos, matcher_literal, hmin, hmax]
  rfl

end RegExp
