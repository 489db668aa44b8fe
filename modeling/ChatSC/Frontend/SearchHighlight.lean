import ChatSC.Backend.Search

/-!
# Highlighted search results (`renderHighlightedSearchText` of `chat.page.tsx`)

The page shows a message that was found in parts, of which those that are the query are marked.
`toLowerCase` of JavaScript, which goes by the tables of Unicode, is an argument.
-/

namespace ChatSC.Frontend

open Backend JsString RegExp

/-- A `<mark>` or a `<span>`. -/
structure TextPart where
  marked : Bool
  text : JsString
deriving DecidableEq

/-- What is rendered. -/
inductive SearchText where
  | content (content : JsString)
  | parts (parts : List TextPart)
deriving DecidableEq

/-- The regular expression of the escaped query in parentheses, with the flags `ig`. -/
def newMatcher (engine : Engine) (trimmedQuery : JsString) : Option Object :=
  newRegExp engine (unit '(' :: escapeQuery trimmedQuery ++ [unit ')']) true

/-- A part of the content, marked when it is the query in another case or the same. -/
def renderPart (toLowerCase : JsString → JsString) (trimmedQuery part : JsString) : TextPart :=
  ⟨toLowerCase part = toLowerCase trimmedQuery, part⟩

/-- `renderHighlightedSearchText`; `none` when it throws, of which a part that is `undefined` would be
    a reason. -/
def renderHighlightedSearchText (engine : Engine) (toLowerCase : JsString → JsString)
    (content query : JsString) : Option SearchText :=
  let trimmedQuery := trim query
  if trimmedQuery = [] then some (.content content)
  else
    (newMatcher engine trimmedQuery).bind fun matcher =>
      ((matcher.split content).mapM (Option.map (renderPart toLowerCase trimmedQuery))).map .parts

end ChatSC.Frontend
