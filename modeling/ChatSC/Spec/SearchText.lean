import ChatSC.ForStd.Records
import ChatSC.ForStd.RegExpLiteral
import ChatSC.Frontend.SearchHighlight

/-!
# Search text is taken literally

The characters that are escaped before a query becomes a pattern are the `SyntaxCharacter`s of the
grammar, so a query is read as its own characters (`searchText_literal`).  No search throws, what is
found contains the query up to the folding of the engine, and what is highlighted is the whole text.
-/

namespace ChatSC.Spec

open Backend Frontend JsString RegExp

/-! ## Escaping -/

theorem mem_escapedUnits (u : UInt16) : u ∈ escapedUnits ↔ u ∈ syntaxUnits := by
  have hsyntax : escapedUnits ⊆ syntaxUnits := by decide
  have hescaped : syntaxUnits ⊆ escapedUnits := by decide
  exact ⟨fun h => hsyntax h, fun h => hescaped h⟩

/-- A query is escaped as the grammar needs it. -/
theorem escapeQuery_eq_escape (query : JsString) : escapeQuery query = escape query := by
  rw [escapeQuery, escape]
  congr 1
  funext u
  simp only [mem_escapedUnits, escapeUnit]

section Literal

variable (engine : Engine) (query : JsString)

theorem newSearchRegex_eq :
    newSearchRegex engine query = some ⟨⟨literal query, 0⟩, engine.flags true⟩ := by
  rw [newSearchRegex, newRegExp, escapeQuery_eq_escape, parse_escape]
  rfl

theorem newMatcher_eq :
    newMatcher engine query = some ⟨⟨groupOf query, 1⟩, engine.flags true⟩ := by
  rw [newMatcher, newRegExp, escapeQuery_eq_escape, parse_escape_group]
  rfl

/-- The characters of a query are found in what contains it. -/
theorem test_literal_iff (content : JsString) :
    Object.test ⟨⟨literal query, 0⟩, engine.flags true⟩ content = true ↔
      ContainsUpTo engine.canonicalize content query := by
  refine test_iff fun index => ?_
  rw [matchAt_literal]
  split <;> simp_all

theorem test_groupOf_iff (content : JsString) :
    Object.test ⟨⟨groupOf query, 1⟩, engine.flags true⟩ content = true ↔
      ContainsUpTo engine.canonicalize content query := by
  refine test_iff fun index => ?_
  rw [matchAt_groupOf]
  split <;> simp_all

/-- **Search text is taken literally**: for every query, the escaped text is a pattern of its own
    characters, `new RegExp` does not throw, and a content matches exactly when it contains the trimmed
    query, up to the folding of the engine. -/
theorem searchText_literal :
    parse engine.isIdStart engine.isIdContinue (escapeQuery query) = some ⟨literal query, 0⟩ ∧
      (∃ searchRegex, newSearchRegex engine (trim query) = some searchRegex ∧
        searchRegex.pattern = ⟨literal (trim query), 0⟩ ∧
        ∀ content, searchRegex.test content = true ↔
          ContainsUpTo engine.canonicalize content (trim query)) ∧
      ∃ matcher, newMatcher engine (trim query) = some matcher ∧
        matcher.pattern = ⟨groupOf (trim query), 1⟩ ∧
        ∀ content, matcher.test content = true ↔
          ContainsUpTo engine.canonicalize content (trim query) := by
  -- the regular expressions of the services and the one of the page, which has a group around it
  refine ⟨?_, ⟨_, newSearchRegex_eq engine _, rfl, test_literal_iff engine _⟩,
    ⟨_, newMatcher_eq engine _, rfl, test_groupOf_iff engine _⟩⟩
  rw [escapeQuery_eq_escape, parse_escape]

end Literal

/-! ## Searches -/

/-- A search of messages does not throw, and what it finds contains the query. -/
theorem searchMessages_contains (engine : Engine) (env : BackendEnv)
    (input : ObjectId → DisplayInput) (db : ChatDb) (conversation : ObjectId) (query : JsString) :
    searchMessages engine env input db conversation query ≠ .syntaxError ∧
      ∀ found, searchMessages engine env input db conversation query = .resolved found →
        ∀ message ∈ found, ContainsUpTo engine.canonicalize message.content (trim query) := by
  simp only [searchMessages, newSearchRegex_eq]
  split
  · refine ⟨by simp, fun found h message hmessage => ?_⟩
    cases h
    -- a query that is too short finds nothing
    exact absurd hmessage List.not_mem_nil
  · split
    · exact ⟨by simp, fun found h => nomatch h⟩
    · refine ⟨by simp, fun found h message hmessage => ?_⟩
      cases h
      have hmatch := List.of_mem_filter (List.mem_of_mem_take hmessage)
      exact (test_literal_iff engine (trim query) message.content).mp hmatch

/-- A search of users does not throw, and a name or the address of everyone it finds contains the
    query. -/
theorem searchUsers_contains (engine databaseEngine : Engine) (db : AuthDb) (query : JsString)
    (currentUserId : ObjectId) :
    ∃ found, searchUsers engine databaseEngine db query currentUserId = .resolved found ∧
      ∀ user ∈ found, ∃ text ∈ [user.email, user.username, user.displayName],
        ContainsUpTo databaseEngine.canonicalize text (trim query) := by
  simp only [searchUsers, newSearchRegex_eq]
  split
  · exact ⟨[], rfl, fun user h => absurd h List.not_mem_nil⟩
  · refine ⟨_, rfl, fun user huser => ?_⟩
    obtain ⟨stored, hstored, rfl⟩ := List.mem_map.mp huser
    have hmatch := List.of_mem_filter (List.mem_insertionSort _ |>.mp (List.mem_of_mem_take hstored))
    -- the engine of the database tests the pattern of the service
    simp only [Bool.and_eq_true, Bool.or_eq_true, test_literal_iff] at hmatch
    rcases hmatch.2 with (hemail | husername) | hdisplayName
    · exact ⟨stored.email, by simp [toSessionUser], hemail⟩
    · exact ⟨stored.username, by simp [toSessionUser], husername⟩
    · exact ⟨stored.displayName, by simp [toSessionUser], hdisplayName⟩

/-! ## Highlighting -/

theorem slice_append_drop {input : JsString} {first last : Nat} (h : first ≤ last) :
    Object.slice input first last ++ input.drop last = input.drop first := by
  have hlast : last = first + (last - first) := by omega
  conv_lhs => rw [hlast, ← List.drop_drop]
  rw [Object.slice, ← hlast, List.take_append_drop]

/-- Between the matches of a group and with what the group captures, a text is in order. -/
theorem splitFrom_groupOf (flags : Flags) (text input : JsString) (fuel : Nat) :
    ∀ first index, first ≤ index →
      ∃ parts : List JsString,
        Object.splitFrom ⟨⟨groupOf text, 1⟩, flags⟩ input fuel first index = parts.map some ∧
        parts.flatten = input.drop first := by
  induction fuel with
  | zero => exact fun first index _ => ⟨[input.drop first], rfl, by simp⟩
  | succ fuel ih =>
    intro first index hle
    rw [Object.splitFrom]
    split
    · exact ⟨[input.drop first], rfl, by simp⟩
    · rw [matchAt_groupOf]
      -- at each place the text stands or it does not
      by_cases hstands : RegExp.StandsAt flags input text index
      · rw [if_pos hstands]
        dsimp only
        split
        · exact ih first (index + 1) (by omega)
        · -- what is before the match, the match, and what is behind it
          obtain ⟨parts, hparts, hflatten⟩ :=
            ih (index + text.length) (index + text.length) (Nat.le_refl _)
          refine ⟨Object.slice input first index ::
            Object.slice input index (index + text.length) :: parts, ?_, ?_⟩
          · rw [hparts]
            rfl
          · rw [List.flatten_cons, List.flatten_cons, hflatten, slice_append_drop (by omega),
              slice_append_drop hle]
      · rw [if_neg hstands]
        exact ih first (index + 1) (by omega)

/-- The parts of a content at a text, with the matches between them, are the content. -/
theorem split_groupOf (flags : Flags) (text content : JsString) :
    ∃ parts : List JsString,
      Object.split ⟨⟨groupOf text, 1⟩, flags⟩ content = parts.map some ∧
      parts.flatten = content := by
  rw [Object.split]
  split
  · rename_i hempty
    split
    · exact ⟨[], rfl, hempty.symm⟩
    · exact ⟨[content], rfl, by simp⟩
  · exact splitFrom_groupOf flags text content _ 0 0 (Nat.le_refl 0)

/-- Highlighting does not throw, and shows the whole content. -/
theorem renderHighlightedSearchText_spec (engine : Engine) (toLowerCase : JsString → JsString)
    (content query : JsString) :
    renderHighlightedSearchText engine toLowerCase content query = some (.content content) ∨
      ∃ parts, renderHighlightedSearchText engine toLowerCase content query = some (.parts parts) ∧
        (parts.map TextPart.text).flatten = content := by
  unfold renderHighlightedSearchText
  dsimp only
  split
  · exact .inl rfl
  · refine .inr ?_
    rw [newMatcher_eq, Option.bind_some]
    obtain ⟨parts, hparts, hflatten⟩ := split_groupOf (engine.flags true) (trim query) content
    -- `split` leaves out no part, for the group takes part in every match
    have hrender := Records.mapM_map_some some (Option.map (renderPart toLowerCase (trim query)))
      (renderPart toLowerCase (trim query)) (fun _ => rfl) parts
    refine ⟨parts.map (renderPart toLowerCase (trim query)), ?_, ?_⟩
    · rw [hparts, hrender]
      rfl
    · rw [List.map_map]
      simpa [Function.comp_def, renderPart] using hflatten

end ChatSC.Spec
