import ChatSC.ForStd.RegExpSyntax

/-!
# Matching

The matchers of ECMAScript for the patterns of `RegExpSyntax`: a matcher takes a state and the
continuation that is to succeed after it.  Characters are compared after the folding of the flags,
whose table is a parameter.
-/

namespace RegExp

open JsString

/-! ## Flags -/

/-- The flags that matching depends on, and `Canonicalize` of the engine for `i`. -/
structure Flags where
  ignoreCase : Bool
  multiline : Bool
  dotAll : Bool
  canonicalize : UInt16 → UInt16

/-- What stands for a character when characters are compared. -/
def Flags.fold (flags : Flags) (u : UInt16) : UInt16 :=
  if flags.ignoreCase then flags.canonicalize u else u

/-! ## Sets of characters -/

def isLineTerminator (u : UInt16) : Bool := u = 0x0A || u = 0x0D || u = 0x2028 || u = 0x2029

def isWordUnit (u : UInt16) : Bool := isAsciiLetter u || isDecimalDigit u || u = unit '_'

def CharacterClassEscape.has : CharacterClassEscape → UInt16 → Bool
  | .digit, u => isDecimalDigit u
  | .space, u => isTrimmed u
  | .word, u => isWordUnit u

def ClassItem.has : ClassItem → UInt16 → Bool
  | .single v, u => u = v
  | .range first last, u => first ≤ u && u ≤ last
  | .escape kind negated, u => kind.has u != negated

/-- A character of a set is the same as this one, once folded. -/
def Flags.finds (flags : Flags) (has : UInt16 → Bool) (u : UInt16) : Bool :=
  (List.range (2 ^ 16)).any fun n =>
    has (UInt16.ofNat n) && flags.fold (UInt16.ofNat n) = flags.fold u

/-! ## Matchers -/

/-- `MatchState`: where the match has come to, and what the groups have captured. -/
structure MatchState where
  endIndex : Nat
  captures : List (Option (Nat × Nat))
deriving DecidableEq

/-- `MatcherContinuation` -/
abbrev Continuation := MatchState → Option MatchState

/-- `Matcher` -/
abbrev Matcher := MatchState → Continuation → Option MatchState

/-- `CharacterSetMatcher`, for the characters that it accepts. -/
def characterMatcher (input : JsString) (forward : Bool) (accepts : UInt16 → Bool) : Matcher :=
  fun x c =>
    if forward then
      match input[x.endIndex]? with
      | some u => if accepts u then c { x with endIndex := x.endIndex + 1 } else none
      | none => none
    else if x.endIndex = 0 then none
    else
      match input[x.endIndex - 1]? with
      | some u => if accepts u then c { x with endIndex := x.endIndex - 1 } else none
      | none => none

/-- `BackreferenceMatcher` -/
def backreferenceMatcher (flags : Flags) (input : JsString) (forward : Bool) (index : Nat) :
    Matcher :=
  fun x c =>
    match (x.captures[index - 1]?).join with
    -- a group that has not taken part matches the empty text
    | none => c x
    | some (first, last) =>
      let length := last - first
      if forward then
        if ((input.drop x.endIndex).take length).map flags.fold =
            ((input.drop first).take length).map flags.fold then
          c { x with endIndex := x.endIndex + length }
        else none
      else if length ≤ x.endIndex ∧
          ((input.drop (x.endIndex - length)).take length).map flags.fold =
            ((input.drop first).take length).map flags.fold then
        c { x with endIndex := x.endIndex - length }
      else none

/-- The captures of a quantified part are dropped before each repetition. -/
def clearCaptures (before count : Nat) (captures : List (Option (Nat × Nat))) :
    List (Option (Nat × Nat)) :=
  captures.mapIdx fun i capture => if before ≤ i ∧ i < before + count then none else capture

/-- `RepeatMatcher`; the first argument bounds the repetitions, of which those behind the least number
    are not empty. -/
def repeatMatcher (m : Matcher) (greedy : Bool) (before count : Nat) :
    Nat → Nat → Option Nat → Matcher
  | 0, _, _ => fun _ _ => none
  | fuel + 1, min, max => fun x c =>
    if max = some 0 then c x
    else
      let again := m { x with captures := clearCaptures before count x.captures } fun y =>
        if min = 0 ∧ y.endIndex = x.endIndex then none
        else repeatMatcher m greedy before count fuel (min - 1) (max.map (· - 1)) y c
      if min ≠ 0 then again else if greedy then again.or (c x) else (c x).or again

/-- `IsWordChar`, of the character before or behind a position. -/
def wordAt (input : JsString) (i : Nat) : Bool := input[i]?.any isWordUnit

def wordBefore (input : JsString) (i : Nat) : Bool := i ≠ 0 && wordAt input (i - 1)

/-- `CompileSubpattern` -/
def Node.matcher (flags : Flags) (input : JsString) : Node → Bool → Matcher
  | .empty, _ => fun x c => c x
  | .char u, forward => characterMatcher input forward fun v => flags.fold u = flags.fold v
  | .any, forward =>
    characterMatcher input forward (flags.finds fun u => flags.dotAll || !isLineTerminator u)
  | .set negated items, forward =>
    characterMatcher input forward fun v =>
      flags.finds (fun u => items.any (·.has u)) v != negated
  | .seq first second, forward => fun x c =>
    if forward then first.matcher flags input true x fun y => second.matcher flags input true y c
    else second.matcher flags input false x fun y => first.matcher flags input false y c
  | .alt first second, forward => fun x c =>
    (first.matcher flags input forward x c).or (second.matcher flags input forward x c)
  | .group index _ body, forward => fun x c =>
    body.matcher flags input forward x fun y =>
      c { y with
        captures := y.captures.set (index - 1)
          (some (Nat.min x.endIndex y.endIndex, Nat.max x.endIndex y.endIndex)) }
  | .backreference index, forward => backreferenceMatcher flags input forward index
  -- a pattern that was read has none
  | .namedBackreference _, _ => fun _ _ => none
  | .start, _ => fun x c =>
    if x.endIndex = 0 ∨ (flags.multiline ∧ input[x.endIndex - 1]?.any isLineTerminator) then c x
    else none
  | .finish, _ => fun x c =>
    if x.endIndex = input.length ∨ (flags.multiline ∧ input[x.endIndex]?.any isLineTerminator)
    then c x
    else none
  | .boundary negated, _ => fun x c =>
    if (wordBefore input x.endIndex != wordAt input x.endIndex) != negated then c x else none
  | .look ahead negated body, _ => fun x c =>
    match body.matcher flags input ahead x some with
    | some y => if negated then none else c { x with captures := y.captures }
    | none => if negated then c x else none
  | .quantified quantifier before count body, forward =>
    repeatMatcher (body.matcher flags input forward) quantifier.greedy before count
      (quantifier.min + input.length + 2) quantifier.min quantifier.max

/-! ### Matching forward -/

section Forward

variable {flags : Flags} {input : JsString} {x : MatchState} {c : Continuation}

theorem matcher_seq {first second : Node} :
    (Node.seq first second).matcher flags input true x c =
      first.matcher flags input true x fun y => second.matcher flags input true y c := rfl

theorem matcher_char {u : UInt16} :
    (Node.char u).matcher flags input true x c =
      match input[x.endIndex]? with
      | some v =>
        if flags.fold u = flags.fold v then c { x with endIndex := x.endIndex + 1 } else none
      | none => none := by
  simp only [Node.matcher, characterMatcher, if_true, decide_eq_true_eq]

end Forward

/-! ## Regular expressions -/

/-- A `RegExp` object, apart from its `lastIndex`. -/
structure Object where
  pattern : Pattern
  flags : Flags

/-- What an engine has of Unicode: the code points of names, and the folding of characters. -/
structure Engine where
  isIdStart : Nat → Bool
  isIdContinue : Nat → Bool
  canonicalize : UInt16 → UInt16

/-- The flag `i`, or none that matching depends on. -/
def Engine.flags (engine : Engine) (ignoreCase : Bool) : Flags :=
  ⟨ignoreCase, false, false, engine.canonicalize⟩

/-- `new RegExp(source, flags)`, where the flags have an `i` or not; `none` when it throws. -/
def newRegExp (engine : Engine) (source : JsString) (ignoreCase : Bool) : Option Object :=
  (parse engine.isIdStart engine.isIdContinue source).map (⟨·, engine.flags ignoreCase⟩)

namespace Object

/-- A match that begins at an index. -/
def matchAt (r : Object) (input : JsString) (index : Nat) : Option MatchState :=
  r.pattern.node.matcher r.flags input true ⟨index, List.replicate r.pattern.groupCount none⟩ some

/-- `RegExpBuiltinExec` from an index: where the first match begins, and its end. -/
def exec (r : Object) (input : JsString) (lastIndex : Nat) : Option (Nat × MatchState) :=
  (List.range' lastIndex (input.length + 1 - lastIndex)).findSome? fun index =>
    (r.matchAt input index).map fun state => (index, state)

/-- `r.test(input)`, for an `r` that keeps no `lastIndex`. -/
def test (r : Object) (input : JsString) : Bool := (r.exec input 0).isSome

/-- `input.substring(first, last)` -/
def slice (input : JsString) (first last : Nat) : JsString := (input.drop first).take (last - first)

/-- The parts of `input.split(r)` from an index on, when the next part begins at `first`.  The first
    argument bounds the number of attempts. -/
def splitFrom (r : Object) (input : JsString) : Nat → Nat → Nat → List (Option JsString)
  | 0, first, _ => [some (input.drop first)]
  | fuel + 1, first, index =>
    if input.length ≤ index then [some (input.drop first)]
    else
      match r.matchAt input index with
      | none => splitFrom r input fuel first (index + 1)
      | some state =>
        if state.endIndex = first then splitFrom r input fuel first (index + 1)
        else
          some (slice input first index) ::
            state.captures.map (Option.map fun range => slice input range.1 range.2) ++
            splitFrom r input fuel state.endIndex state.endIndex

/-- `input.split(r)`, with what the groups captured between the parts. -/
def split (r : Object) (input : JsString) : List (Option JsString) :=
  if input = [] then if (r.matchAt input 0).isSome then [] else [some input]
  else splitFrom r input (2 * input.length + 2) 0 0

end Object

end RegExp
