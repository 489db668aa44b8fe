import ChatSC.ForStd.JsString

/-!
# Patterns of regular expressions

The patterns of ECMAScript without the flags `u` and `v`, as engines read them: the grammar of the 2024
edition with its Annex B.  A pattern is a list of code units.  `Grammar` has the parameters of the
grammar, `parse` reads a pattern, and `none` is a `SyntaxError`.

The loop `terms` reads a term at a time, with the groups that are open on a stack.
-/

namespace RegExp

open JsString

/-- The code unit of an ASCII character. -/
def unit (c : Char) : UInt16 := UInt16.ofNat c.toNat

/-! ## Nodes -/

/-- `CharacterClassEscape` -/
inductive CharacterClassEscape where
  | digit
  | space
  | word
deriving DecidableEq

/-- What a class is made of. -/
inductive ClassItem where
  | single (u : UInt16)
  | range (first last : UInt16)
  | escape (kind : CharacterClassEscape) (negated : Bool)
deriving DecidableEq

/-- `CapturingGroupName`, its code points. -/
abbrev Name := List Nat

/-- `Quantifier` -/
structure Quantifier where
  min : Nat
  max : Option Nat
  greedy : Bool
deriving DecidableEq

/-- A pattern, or a part of one.  A quantified part knows how many groups are before it and in it. -/
inductive Node where
  | empty
  | char (u : UInt16)
  | any
  | set (negated : Bool) (items : List ClassItem)
  | seq (first second : Node)
  | alt (first second : Node)
  | group (index : Nat) (name : Option Name) (body : Node)
  | backreference (index : Nat)
  | namedBackreference (name : Name)
  | start
  | finish
  | boundary (negated : Bool)
  | look (ahead negated : Bool) (body : Node)
  | quantified (quantifier : Quantifier) (before count : Nat) (body : Node)
deriving DecidableEq

/-- The names of the groups, with their indices. -/
def Node.names : Node → List (Name × Nat)
  | .group index (some name) body => (name, index) :: body.names
  | .group _ none body | .look _ _ body | .quantified _ _ _ body => body.names
  | .seq first second | .alt first second => first.names ++ second.names
  | .empty | .char _ | .any | .set _ _ | .backreference _ | .namedBackreference _ | .start
  | .finish | .boundary _ => []

/-- Names become indices; `none` when a name is no group's. -/
def Node.resolve (names : List (Name × Nat)) : Node → Option Node
  | .namedBackreference name => (names.lookup name).map .backreference
  | .group index name body => (body.resolve names).map (.group index name)
  | .look ahead negated body => (body.resolve names).map (.look ahead negated)
  | .quantified quantifier before count body =>
    (body.resolve names).map (.quantified quantifier before count)
  | .seq first second =>
    (first.resolve names).bind fun first => (second.resolve names).map (.seq first)
  | .alt first second =>
    (first.resolve names).bind fun first => (second.resolve names).map (.alt first)
  | node => some node

/-! ## Characters and numbers -/

def isDecimalDigit (u : UInt16) : Bool := unit '0' ≤ u && u ≤ unit '9'

def isOctalDigit (u : UInt16) : Bool := unit '0' ≤ u && u ≤ unit '7'

def isAsciiLetter (u : UInt16) : Bool :=
  (unit 'a' ≤ u && u ≤ unit 'z') || (unit 'A' ≤ u && u ≤ unit 'Z')

def digitValue (u : UInt16) : Nat := u.toNat - 48

/-- The value of a `HexDigit`. -/
def hexValue (u : UInt16) : Option Nat :=
  if isDecimalDigit u then some (digitValue u)
  else if unit 'a' ≤ u && u ≤ unit 'f' then some (u.toNat - 87)
  else if unit 'A' ≤ u && u ≤ unit 'F' then some (u.toNat - 55)
  else none

/-- `DecimalDigits`, all that there are. -/
def decimalDigits (input : JsString) : Option (Nat × JsString) :=
  if input.takeWhile isDecimalDigit = [] then none
  else
    some ((input.takeWhile isDecimalDigit).foldl (fun n u => 10 * n + digitValue u) 0,
      input.dropWhile isDecimalDigit)

/-- As many hex digits as asked for, after those with this value. -/
def hexDigits : Nat → Nat → JsString → Option (Nat × JsString)
  | 0, value, input => some (value, input)
  | _ + 1, _, [] => none
  | count + 1, value, u :: rest =>
    (hexValue u).bind fun digit => hexDigits count (16 * value + digit) rest

/-- `LegacyOctalEscapeSequence` or `0`, after its first digit: two digits more at most, and no more
    than a byte. -/
def octalEscape (first : UInt16) : JsString → UInt16 × JsString
  | second :: third :: rest =>
    if isOctalDigit second then
      if first ≤ unit '3' && isOctalDigit third then
        (UInt16.ofNat (64 * digitValue first + 8 * digitValue second + digitValue third), rest)
      else (UInt16.ofNat (8 * digitValue first + digitValue second), third :: rest)
    else (UInt16.ofNat (digitValue first), second :: third :: rest)
  | [second] =>
    if isOctalDigit second then (UInt16.ofNat (8 * digitValue first + digitValue second), [])
    else (UInt16.ofNat (digitValue first), [second])
  | [] => (UInt16.ofNat (digitValue first), [])

/-- `ControlEscape` -/
def controlEscapes : List (UInt16 × UInt16) :=
  [(unit 'f', 0x0C), (unit 'n', 0x0A), (unit 'r', 0x0D), (unit 't', 0x09), (unit 'v', 0x0B)]

/-- A letter behind `c`. -/
def controlLetter (u : UInt16) : UInt16 := u % 32

/-! ## Names of groups -/

/-- The parameters of the grammar: whether names of groups are read, how many groups there are, and
    the code points with the properties `ID_Start` and `ID_Continue`. -/
structure Grammar where
  namedGroups : Bool
  groupCount : Nat
  isIdStart : Nat → Bool
  isIdContinue : Nat → Bool

/-- The code point of a surrogate pair. -/
def codePoint (leading trailing : Nat) : Nat :=
  (leading - 0xD800) * 0x400 + (trailing - 0xDC00) + 0x10000

/-- The digits of `u{..}`, and the closing brace. -/
def bracedHexDigits : Nat → Bool → JsString → Option (Nat × JsString)
  | _, _, [] => none
  | value, seen, u :: rest =>
    if u = unit '\x7d' then if seen then some (value, rest) else none
    else
      (hexValue u).bind fun digit =>
        if 16 * value + digit ≤ 0x10FFFF then bracedHexDigits (16 * value + digit) true rest else none

/-- `RegExpUnicodeEscapeSequence` in a name, after the `u`. -/
def unicodeEscape : JsString → Option (Nat × JsString)
  | [] => none
  | u :: rest =>
    if u = unit '\x7b' then bracedHexDigits 0 false rest
    else
      (hexDigits 4 0 (u :: rest)).map fun leading =>
        match leading.2 with
        | slash :: letter :: more =>
          -- a second escape belongs to the first one when the two are a surrogate pair
          if slash = unit '\\' ∧ letter = unit 'u' ∧ isLeading (UInt16.ofNat leading.1) then
            match hexDigits 4 0 more with
            | some trailing =>
              if isTrailing (UInt16.ofNat trailing.1) then
                (codePoint leading.1 trailing.1, trailing.2)
              else leading
            | none => leading
          else leading
        | _ => leading

/-- A code point of a name. -/
def nameCodePoint : JsString → Option (Nat × JsString)
  | [] => none
  | [u] => if u = unit '\\' then none else some (u.toNat, [])
  | u :: v :: rest =>
    if u = unit '\\' then if v = unit 'u' then unicodeEscape rest else none
    else if isLeading u && isTrailing v then some (codePoint u.toNat v.toNat, rest)
    else some (u.toNat, v :: rest)

/-- `RegExpIdentifierStart`, `RegExpIdentifierPart` -/
def Grammar.isNamePart (grammar : Grammar) (name : Name) (p : Nat) : Bool :=
  p = 36 || (p = 95 || if name = [] then grammar.isIdStart p
    else grammar.isIdContinue p || p = 0x200C || p = 0x200D)

/-- `GroupName`, after the `<`; the first argument bounds its length. -/
def groupName (grammar : Grammar) : Nat → Name → JsString → Option (Name × JsString)
  | 0, _, _ => none
  | _ + 1, _, [] => none
  | fuel + 1, name, u :: rest =>
    if u = unit '>' then if name = [] then none else some (name, rest)
    else
      (nameCodePoint (u :: rest)).bind fun read =>
        if grammar.isNamePart name read.1 then groupName grammar fuel (name ++ [read.1]) read.2
        else none

/-! ## Escapes -/

/-- `CharacterEscape`, after the backslash. -/
def characterEscape (namedGroups : Bool) : JsString → Option (UInt16 × JsString)
  | [] => none
  | e :: rest =>
    match controlEscapes.lookup e with
    | some u => some (u, rest)
    | none =>
      if e = unit 'c' then
        match rest with
        | letter :: rest => if isAsciiLetter letter then some (controlLetter letter, rest) else none
        | [] => none
      else if isOctalDigit e then some (octalEscape e rest)
      else if e = unit 'x' then
        match hexDigits 2 0 rest with
        | some (value, rest) => some (UInt16.ofNat value, rest)
        | none => some (e, rest)
      else if e = unit 'u' then
        match hexDigits 4 0 rest with
        | some (value, rest) => some (UInt16.ofNat value, rest)
        | none => some (e, rest)
      -- an identity escape, with names not of their letter
      else if e = unit 'k' && namedGroups then none
      else some (e, rest)

/-- `CharacterClassEscape` -/
def characterClassEscape (e : UInt16) : Option ClassItem :=
  if e = unit 'd' then some (.escape .digit false)
  else if e = unit 'D' then some (.escape .digit true)
  else if e = unit 's' then some (.escape .space false)
  else if e = unit 'S' then some (.escape .space true)
  else if e = unit 'w' then some (.escape .word false)
  else if e = unit 'W' then some (.escape .word true)
  else none

/-- `DecimalEscape`, when there are as many groups. -/
def decimalEscape (grammar : Grammar) : JsString → Option (Nat × JsString)
  | [] => none
  | e :: rest =>
    if e = unit '0' then none
    else (decimalDigits (e :: rest)).filter fun read => read.1 ≤ grammar.groupCount

/-- `AtomEscape`, after the backslash. -/
def atomEscape (grammar : Grammar) (input : JsString) : Option (Node × JsString) :=
  match decimalEscape grammar input with
  | some (index, rest) => some (.backreference index, rest)
  -- no number, or one that no group has: the digits may still be an octal escape
  | none =>
    match input with
    | [] => none
    | e :: rest =>
      match characterClassEscape e with
      | some item => some (.set false [item], rest)
      | none =>
        if e = unit 'k' && grammar.namedGroups then
          match rest with
          | bracket :: rest =>
            if bracket = unit '<' then
              (groupName grammar (rest.length + 1) [] rest).map fun read =>
                (.namedBackreference read.1, read.2)
            else none
          | [] => none
        else
          (characterEscape grammar.namedGroups input).map fun read => (.char read.1, read.2)

/-! ## Classes -/

/-- `ClassAtom` -/
def classAtom (namedGroups : Bool) : JsString → Option (ClassItem × JsString)
  | [] => none
  | [u] => if u = unit '\\' then none else some (.single u, [])
  | u :: e :: rest =>
    if u = unit '\\' then
      if e = unit 'b' then some (.single 8, rest)
      else
        match characterClassEscape e with
        | some item => some (item, rest)
        | none =>
          if e = unit 'c' then
            match rest with
            | letter :: more =>
              if isAsciiLetter letter || isDecimalDigit letter || letter = unit '_' then
                some (.single (controlLetter letter), more)
              -- the backslash stands for itself
              else some (.single u, e :: rest)
            | [] => some (.single u, e :: rest)
          else (characterEscape namedGroups (e :: rest)).map fun read => (.single read.1, read.2)
    else some (.single u, e :: rest)

/-- `CharacterRangeOrUnion`; characters must be in order. -/
def characterRange : ClassItem → ClassItem → Option (List ClassItem)
  | .single first, .single last => if first ≤ last then some [.range first last] else none
  | first, last => some [first, .single (unit '-'), last]

/-- `ClassContents` up to the closing bracket; the first argument bounds its length. -/
def classContents (namedGroups : Bool) :
    Nat → List ClassItem → JsString → Option (List ClassItem × JsString)
  | 0, _, _ => none
  | _ + 1, _, [] => none
  | fuel + 1, items, u :: rest =>
    if u = unit ']' then some (items, rest)
    else
      (classAtom namedGroups (u :: rest)).bind fun first =>
        match first.2 with
        | dash :: e :: more =>
          -- a dash in front of the closing bracket stands for itself
          if dash = unit '-' ∧ e ≠ unit ']' then
            (classAtom namedGroups (e :: more)).bind fun last =>
              (characterRange first.1 last.1).bind fun range =>
                classContents namedGroups fuel (items ++ range) last.2
          else classContents namedGroups fuel (items ++ [first.1]) first.2
        | _ => classContents namedGroups fuel (items ++ [first.1]) first.2

/-- `CharacterClass`, after the opening bracket. -/
def characterClass (namedGroups : Bool) (input : JsString) : Option (Node × JsString) :=
  let negated := input.head? = some (unit '^')
  let contents := if negated then input.tail else input
  (classContents namedGroups (contents.length + 1) [] contents).map fun read =>
    (.set negated read.1, read.2)

/-! ## Quantifiers -/

/-- The bounds of a quantifier in braces, after the opening one. -/
def bracedBounds (input : JsString) : Option ((Nat × Option Nat) × JsString) :=
  match decimalDigits input with
  | none => none
  | some (min, rest) =>
    match rest with
    | [] => none
    | u :: rest =>
      if u = unit '\x7d' then some ((min, some min), rest)
      else if u = unit ',' then
        match rest with
        | [] => none
        | v :: more =>
          if v = unit '\x7d' then some ((min, none), more)
          else
            match decimalDigits rest with
            | some (max, close :: rest) =>
              if close = unit '\x7d' then some ((min, some max), rest) else none
            | _ => none
      else none

/-- `QuantifierPrefix`, if there is one. -/
def quantifierPrefix : JsString → Option ((Nat × Option Nat) × JsString)
  | [] => none
  | u :: rest =>
    if u = unit '*' then some ((0, none), rest)
    else if u = unit '+' then some ((1, none), rest)
    else if u = unit '?' then some ((0, some 1), rest)
    else if u = unit '\x7b' then bracedBounds rest
    else none

/-- A term that may have a quantifier, with it; the bounds must be in order. -/
def quantify (before count : Nat) (node : Node) (input : JsString) : Option (Node × JsString) :=
  match quantifierPrefix input with
  | none => some (node, input)
  | some ((min, max), rest) =>
    if max.all (min ≤ ·) then
      let greedy := rest.head? ≠ some (unit '?')
      some (.quantified ⟨min, max, greedy⟩ before count node, if greedy then rest else rest.tail)
    else none

/-! ## Terms -/

/-- A term that is no group, and whether it may have a quantifier.  Assertions may not. -/
def simpleTerm (grammar : Grammar) (u : UInt16) (rest : JsString) :
    Option ((Node × Bool) × JsString) :=
  if u = unit '^' then some ((.start, false), rest)
  else if u = unit '$' then some ((.finish, false), rest)
  else if u = unit '\\' then
    match rest with
    | [] => none
    | e :: after =>
      if e = unit 'b' then some ((.boundary false, false), after)
      else if e = unit 'B' then some ((.boundary true, false), after)
      -- a backslash before a `c` that begins no escape stands for itself
      else if e = unit 'c' && !after.head?.any isAsciiLetter then some ((.char u, true), rest)
      else (atomEscape grammar rest).map fun read => ((read.1, true), read.2)
  else if u = unit '.' then some ((.any, true), rest)
  else if u = unit '[' then
    (characterClass grammar.namedGroups rest).map fun read => ((read.1, true), read.2)
  else if u = unit '*' ∨ u = unit '+' ∨ u = unit '?' then none
  -- braces that are no quantifier stand for themselves
  else if u = unit '\x7b' ∧ (bracedBounds rest).isSome then none
  else some ((.char u, true), rest)

/-- What a parenthesis opens. -/
inductive GroupKind where
  | capturing (index : Nat) (name : Option Name)
  | nonCapturing
  | look (ahead negated : Bool)
deriving DecidableEq

/-- The node of a group. -/
def GroupKind.node : GroupKind → Node → Node
  | .capturing index name, body => .group index name body
  | .nonCapturing, body => body
  | .look ahead negated, body => .look ahead negated body

/-- A group may have a quantifier; an assertion about what is behind may not. -/
def GroupKind.quantifiable : GroupKind → Bool
  | .look ahead _ => ahead
  | .capturing _ _ | .nonCapturing => true

/-- How many groups it numbers. -/
def GroupKind.count : GroupKind → Nat
  | .capturing _ _ => 1
  | .nonCapturing | .look _ _ => 0

/-- What begins after a parenthesis, with so many groups before it. -/
def openGroup (grammar : Grammar) (groups : Nat) (input : JsString) :
    Option (GroupKind × JsString) :=
  match input with
  | u :: v :: w :: rest =>
    if u ≠ unit '?' then some (.capturing (groups + 1) none, input)
    else if v = unit ':' then some (.nonCapturing, w :: rest)
    else if v = unit '=' then some (.look true false, w :: rest)
    else if v = unit '!' then some (.look true true, w :: rest)
    else if v = unit '<' then
      if w = unit '=' then some (.look false false, rest)
      else if w = unit '!' then some (.look false true, rest)
      else
        (groupName grammar (rest.length + 2) [] (w :: rest)).map fun read =>
          (.capturing (groups + 1) (some read.1), read.2)
    else none
  -- too short for one of these to be closed
  | u :: _ => if u ≠ unit '?' then some (.capturing (groups + 1) none, input) else none
  | [] => none

/-! ## The loop -/

/-- An open group: its kind, the alternatives and the alternative it stands in, and how many groups
    were before it. -/
structure Frame where
  kind : GroupKind
  alternatives : List Node
  current : Node
  before : Nat

/-- `Disjunction`, from its alternatives, the last one first. -/
def disjunction (alternatives : List Node) (last : Node) : Node :=
  alternatives.foldl (fun rest alternative => .alt alternative rest) last

/-- Terms up to the end of the pattern.  The first argument bounds their number; then come the open
    groups, the alternatives before this one, the terms of it so far, and the groups so far. -/
def terms (grammar : Grammar) :
    Nat → List Frame → List Node → Node → Nat → JsString → Option Node
  | 0, _, _, _, _, _ => none
  | _ + 1, stack, alternatives, current, _, [] =>
    if stack.isEmpty then some (disjunction alternatives current) else none
  | fuel + 1, stack, alternatives, current, groups, u :: rest =>
    if u = unit '|' then terms grammar fuel stack (current :: alternatives) .empty groups rest
    else if u = unit '(' then
      (openGroup grammar groups rest).bind fun opened =>
        terms grammar fuel (⟨opened.1, alternatives, current, groups⟩ :: stack) [] .empty
          (groups + opened.1.count) opened.2
    else if u = unit ')' then
      match stack with
      | [] => none
      | frame :: stack =>
        -- the quantifier behind a group repeats the captures inside it as well
        let node := frame.kind.node (disjunction alternatives current)
        (if frame.kind.quantifiable then
            quantify frame.before (groups - frame.before) node rest
          else some (node, rest)).bind fun term =>
          terms grammar fuel stack frame.alternatives (.seq frame.current term.1) groups term.2
    else
      (simpleTerm grammar u rest).bind fun simple =>
        (if simple.1.2 then quantify groups 0 simple.1.1 simple.2
          else some (simple.1.1, simple.2)).bind fun term =>
          terms grammar fuel stack alternatives (.seq current term.1) groups term.2

/-! ## Patterns -/

/-- A parenthesis before this is one that captures: no `?` follows, or a name. -/
def captures : JsString → Bool
  | u :: v :: w :: _ => u ≠ unit '?' || (v = unit '<' && w ≠ unit '=' && w ≠ unit '!')
  | u :: _ => u ≠ unit '?'
  | [] => true

/-- `CountLeftCapturingParensWithin` of the pattern: the parentheses that capture, in no class and in
    no escape. -/
def countGroups : Bool → JsString → Nat
  | _, [] => 0
  | inClass, [u] => if !inClass && u = unit '(' then 1 else 0
  | inClass, u :: v :: rest =>
    if u = unit '\\' then countGroups inClass rest
    else if inClass then countGroups (u ≠ unit ']') (v :: rest)
    else if u = unit '[' then countGroups true (v :: rest)
    else if u = unit '(' then
      (if captures (v :: rest) then 1 else 0) + countGroups false (v :: rest)
    else countGroups false (v :: rest)

/-- A pattern that was read, and the number of its groups. -/
structure Pattern where
  node : Node
  groupCount : Nat
deriving DecidableEq

/-- `ParsePattern`; `none` when it is a `SyntaxError`.  A pattern with a name is read again, with names
    in its escapes. -/
def parse (isIdStart isIdContinue : Nat → Bool) (pattern : JsString) : Option Pattern :=
  let groupCount := countGroups false pattern
  let read (namedGroups : Bool) :=
    terms ⟨namedGroups, groupCount, isIdStart, isIdContinue⟩ (pattern.length + 1) [] [] .empty 0
      pattern
  (read false).bind fun node =>
    (if node.names = [] then some node else read true).bind fun node =>
      if (node.names.map Prod.fst).Nodup ∧ groupCount < 2 ^ 32 - 1 then
        (node.resolve node.names).map fun node => ⟨node, groupCount⟩
      else none

example : parse (fun _ => false) (fun _ => false) (js "a**") = none := by decide

-- Annex B quantifies what looks ahead, and not what looks behind
example : (parse (fun _ => false) (fun _ => false) (js "(?=a)*")).isSome ∧
    parse (fun _ => false) (fun _ => false) (js "(?<=a)*") = none := by decide

end RegExp
