import ChatSC.Backend.AiService
import ChatSC.Backend.MessageHistory

/-!
# Features of the AI (`ai-chatbot.service.ts`, `ai-moderation.service.ts`, `ai-suggestions.service.ts`)

Replies of the chat bot, moderation and suggestions: the request that each makes, and what it makes of
the answer.  What a request comes to with a key and a model is the parameter `ask`; `JSON.parse` is
the parameter `parse`, where `none` says that it throws, and `toLowerCase` is a parameter as
elsewhere.  The history of a conversation is what `getMessages` has answered.
-/

namespace ChatSC.Backend

open JsString

/-! ## Requests -/

/-- `GeminiRole` -/
inductive GeminiRole where
  | user
  | model
deriving DecidableEq, Repr

/-- `AiConversationMessage`, which is `GeminiRequestMessageDto` too. -/
structure AiConversationMessage where
  role : GeminiRole
  text : JsString
deriving DecidableEq

/-- `responseMimeType` -/
inductive ResponseMimeType where
  | textPlain
  | applicationJson
deriving DecidableEq, Repr

/-- `GeminiRequestDto` -/
structure GeminiRequest where
  model : JsString
  messages : List AiConversationMessage
  responseMimeType : Option ResponseMimeType
  timeoutMs : Option Nat
deriving DecidableEq

/-- The numbers of `backendEnv` that the features read. -/
structure AiSettings where
  requestTimeoutMs : Nat
  moderationTimeoutMs : Nat
  suggestionTimeoutMs : Nat
  maxContextMessages : Nat
deriving DecidableEq

/-- A value of `JSON.parse`; a number is what stands in the text. -/
inductive Json where
  | null
  | bool (value : Bool)
  | number (text : JsString)
  | string (value : JsString)
  | array (items : List Json)
  | object (entries : List (JsString × Json))

/-- What a feature rejects with. -/
inductive AiError where
  | unavailable (exception : AiUnavailable)
  /-- the `BadRequestException` of `generateJson` -/
  | badRequest (code message : JsString)
  /-- what was parsed is not what the feature takes it for -/
  | typeError
deriving DecidableEq

namespace AiConfigService

/-- `generateText` -/
def generateText (config : AiConfigService) (ask : GeminiRequest → AiTry → AiAnswer)
    (request : GeminiRequest) : AiRun × Except AiError JsString :=
  match config.generateContent (ask request) (some request.model) with
  | (run, .ok parsed) => (run, .ok parsed.text)
  | (run, .error exception) => (run, .error (.unavailable exception))

/-- `generateJson` -/
def generateJson (config : AiConfigService) (ask : GeminiRequest → AiTry → AiAnswer)
    (parse : JsString → Option Json) (request : GeminiRequest) : AiRun × Except AiError Json :=
  match config.generateContent (ask request) (some request.model) with
  | (run, .ok parsed) =>
    match parse parsed.text with
    | some value => (run, .ok value)
    | none =>
      (run, .error (.badRequest (js "AI_INVALID_RESPONSE")
        (js "AI returned malformed JSON response")))
  | (run, .error exception) => (run, .error (.unavailable exception))

end AiConfigService

/-- `lines.join('\n')` -/
def joinLines (lines : List JsString) : JsString := List.intercalate (js "\n") lines

/-- The request of a feature: one message of the user, in lines. -/
def featureRequest (config : AiConfigService) (responseMimeType : Option ResponseMimeType)
    (timeoutMs : Nat) (lines : List JsString) : GeminiRequest where
  model := config.getCurrentModel
  messages := [⟨.user, joinLines lines⟩]
  responseMimeType := responseMimeType
  timeoutMs := some timeoutMs

/-! ## Replies of the chat bot -/

/-- `s.replace(pattern, '')`, which takes out the first occurrence. -/
def removeFirst (pattern : JsString) : JsString → JsString
  | [] => []
  | u :: s =>
    if pattern <+: u :: s then (u :: s).drop pattern.length else u :: removeFirst pattern s

/-- `buildPrompt` -/
def buildPrompt (content : JsString) : JsString :=
  trim (removeFirst (js "/ai") (removeFirst (js "@chatai") content))

example : buildPrompt (js "@chatai tell me /ai /ai") = js "tell me  /ai" := by decide

/-- `toAiConversationContext` without a `botUserId`, which no caller gives. -/
def toAiConversationContext (history : List ChatMessagePayload) : List AiConversationMessage :=
  (history.map fun payload => ⟨.user, payload.display.message.content⟩).filter
    (trim ·.text ≠ [])

/-- `normalizeConversationContext` -/
def normalizeConversationContext (messages : List AiConversationMessage) (maxMessages : Nat) :
    List AiConversationMessage :=
  messages.drop (messages.length - maxMessages)

/-- `message.role` as text. -/
def GeminiRole.text : GeminiRole → JsString
  | .user => js "user"
  | .model => js "model"

/-- The request of `generateResponse`. -/
def responseRequest (config : AiConfigService) (settings : AiSettings)
    (history : List ChatMessagePayload) (content : JsString) : GeminiRequest :=
  let prompt := buildPrompt content
  let context :=
    normalizeConversationContext (toAiConversationContext history) settings.maxContextMessages
  featureRequest config none settings.requestTimeoutMs
    ([js "You are a helpful chat assistant inside a realtime messaging app.",
      js "Answer concisely in Vietnamese unless the user clearly asks for another language.",
      js "Recent conversation context:"] ++
    (context.map fun message => message.role.text ++ js ": " ++ message.text) ++
    [js "Current user request: " ++ if prompt = [] then trim content else prompt])

/-- `generateResponse` -/
def generateResponse (config : AiConfigService) (settings : AiSettings)
    (ask : GeminiRequest → AiTry → AiAnswer) (history : List ChatMessagePayload)
    (content : JsString) : AiRun × Except AiError JsString :=
  match config.generateText ask (responseRequest config settings history content) with
  | (run, text) => (run, text.map trim)

/-! ## Moderation -/

/-- The request of `analyzeMessage`. -/
def moderationRequest (config : AiConfigService) (settings : AiSettings) (content : JsString) :
    GeminiRequest :=
  featureRequest config (some .applicationJson) settings.moderationTimeoutMs
    [js "Analyze the following chat message and return JSON only.",
      js "JSON shape: \x7b\"sentiment\":\"positive|neutral|negative\",\"sentimentScore\":number,\"toxicityScore\":number,\"isToxic\":boolean,\"warningMessage\":string\x7d",
      js "warningMessage should be empty when isToxic is false.",
      js "warningMessage must be in Vietnamese when isToxic is true.",
      js "Message: " ++ content]

/-- `value[field]`; `none` for `undefined`.  `null` has no fields at all. -/
def Json.field (field : String) : Json → Option Json
  | .object entries => (entries.reverse.find? (·.1 = js field)).map Prod.snd
  | _ => none

/-- `value ?? default` -/
def Json.orElse (default : Json) : Option Json → Json
  | none | some .null => default
  | some value => value

/-- `Boolean(value)`; of the numbers of JSON only the zeros are `false`. -/
def Json.truthy (isZero : JsString → Bool) : Option Json → Bool
  | none | some .null => false
  | some (.bool value) => value
  | some (.number text) => !isZero text
  | some (.string value) => value ≠ []
  | some (.array _) | some (.object _) => true

/-- `ModerationResultDto`; the scores are what `Number` is applied to. -/
structure ModerationResult where
  messageId : JsString
  sentiment : Json
  sentimentScore : Json
  toxicityScore : Json
  isToxic : Bool
  warningMessage : Option JsString

/-- `normalizeWarningMessage` -/
def normalizeWarningMessage (toLowerCase : JsString → JsString) (warningMessage : JsString)
    (isToxic : Bool) : Option JsString :=
  if !isToxic then none
  else if warningMessage = [] then some (js "Nội dung này có thể gây khó chịu.")
  else
    let normalized := toLowerCase warningMessage
    if js "offensive language" <:+: normalized ∨ js "offensive" <:+: normalized ∨
        js "toxic" <:+: normalized then
      some (js "Nội dung này có thể gây khó chịu.")
    else some warningMessage

/-- What `analyzeMessage` makes of the parsed answer. -/
def moderationResult (toLowerCase : JsString → JsString) (isZero : JsString → Bool)
    (messageId : JsString) : Json → Except AiError ModerationResult
  | .null => .error .typeError
  | result =>
    let warningMessage :=
      match result.field "warningMessage" with
      | some (.string text) => trim text
      | _ => []
    let isToxic := Json.truthy isZero (result.field "isToxic")
    .ok
      { messageId := messageId
        sentiment := Json.orElse (.string (js "neutral")) (result.field "sentiment")
        sentimentScore := Json.orElse (.number (js "0")) (result.field "sentimentScore")
        toxicityScore := Json.orElse (.number (js "0")) (result.field "toxicityScore")
        isToxic := isToxic
        warningMessage := normalizeWarningMessage toLowerCase warningMessage isToxic }

/-- `analyzeMessage` -/
def analyzeMessage (toLowerCase : JsString → JsString) (isZero : JsString → Bool)
    (config : AiConfigService) (settings : AiSettings) (ask : GeminiRequest → AiTry → AiAnswer)
    (parse : JsString → Option Json) (messageId content : JsString) :
    AiRun × Except AiError ModerationResult :=
  match config.generateJson ask parse (moderationRequest config settings content) with
  | (run, .ok result) => (run, moderationResult toLowerCase isZero messageId result)
  | (run, .error error) => (run, .error error)

/-! ## Suggestions -/

/-- `recentMessages`: the texts that are not blank. -/
def recentTexts (history : List ChatMessagePayload) : List JsString :=
  (history.map fun payload => trim payload.display.message.content).filter (· ≠ [])

/-- The request of `generateSuggestions`, with the latest text. -/
def suggestionsRequest (config : AiConfigService) (settings : AiSettings)
    (recent : List JsString) (latest : JsString) : GeminiRequest :=
  let conversationContext := joinLines ((recent.drop (recent.length - 10)).zipIdx.map
    fun (text, index) => js "Message " ++ js (toString (index + 1)) ++ js ": " ++ text)
  featureRequest config (some .applicationJson) settings.suggestionTimeoutMs
    [js "Generate exactly 3 short reply suggestions for this chat conversation.",
      js "Base the reply language primarily on the latest 2-3 messages in the conversation.",
      js "If the latest messages are in English, return English suggestions. If the latest messages are in Vietnamese, return Vietnamese suggestions.",
      js "Use older messages only as supporting context, not as the main language signal.",
      js "Match the tone and language of the most recent messages naturally.",
      js "Each suggestion must be under 50 characters.",
      js "Return ONLY a JSON array of exactly 3 strings.",
      js "Recent conversation context:",
      conversationContext,
      js "Latest message: " ++ latest]

/-- The suggestions in the parsed answer: the first three items that are texts. -/
def suggestionsOf : Json → Except AiError (List JsString)
  | .array items =>
    .ok ((items.filterMap fun
      | .string text => if trim text = [] then none else some text
      | _ => none).take 3)
  | _ => .error .typeError

/-- `generateSuggestions` -/
def generateSuggestions (config : AiConfigService) (settings : AiSettings)
    (ask : GeminiRequest → AiTry → AiAnswer) (parse : JsString → Option Json)
    (history : List ChatMessagePayload) : AiRun × Except AiError (List JsString) :=
  match (recentTexts history).getLast? with
  | none => ({ config := config, tried := [], lastError := none }, .ok [])
  | some latest =>
    match config.generateJson ask parse
        (suggestionsRequest config settings (recentTexts history) latest) with
    | (run, .ok response) => (run, suggestionsOf response)
    | (run, .error error) => (run, .error error)

end ChatSC.Backend
