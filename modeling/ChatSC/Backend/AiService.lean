import ChatSC.Backend.ChatDb
import Mathlib.Data.List.Infix

/-!
# Keys and models of the AI service (`ai.service.ts`, `ai-config.service.ts`)

`generateContent` asks with one API key and one model after the other until a text comes back.  What
a call of the service comes to is the parameter `ask`, and the calls made stand in `tried`, with the
positions of the key and of the model that were the current ones.  The messages, the settings and
the timeout of a request are part of what is asked, and nothing here depends on them.
-/

namespace ChatSC.Backend

open JsString

/-! ## `ai-config.service.ts` -/

/-- The keys and models of `backendEnv`. -/
structure GeminiEnv where
  geminiApiKeys : JsString
  geminiModels : JsString
deriving DecidableEq

/-- `value.split(',').map((item) => item.trim()).filter(Boolean)` -/
def listed (value : JsString) : List JsString :=
  ((value.splitOn 44).map trim).filter (· ≠ [])

example : listed (js " a,, b ,") = [js "a", js "b"] := by decide

/-- How many keys there are. -/
abbrev GeminiEnv.keyCount (env : GeminiEnv) : Nat := (listed env.geminiApiKeys).length

/-- How many models there are. -/
abbrev GeminiEnv.modelCount (env : GeminiEnv) : Nat := (listed env.geminiModels).length

/-- `AiKeyState` -/
structure AiKeyState where
  apiKey : JsString
  consecutiveFailures : Nat
  isRateLimited : Bool
  lastErrorAt : Option Date
deriving DecidableEq

/-- `AiConfigService`.  Both indices only ever change modulo the length of their list. -/
structure AiConfigService where
  env : GeminiEnv
  keyIndex : Nat
  modelIndex : Nat
  keyStates : List AiKeyState
  keyIndex_lt : listed env.geminiApiKeys ≠ [] → keyIndex < env.keyCount
  modelIndex_lt : listed env.geminiModels ≠ [] → modelIndex < env.modelCount
deriving DecidableEq

/-- The service after its constructor. -/
def AiConfigService.create (env : GeminiEnv) : AiConfigService where
  env := env
  keyIndex := 0
  modelIndex := 0
  keyStates := (listed env.geminiApiKeys).map fun apiKey =>
    { apiKey := apiKey, consecutiveFailures := 0, isRateLimited := false, lastErrorAt := none }
  keyIndex_lt := List.length_pos_iff.mpr
  modelIndex_lt := List.length_pos_iff.mpr

namespace AiConfigService

/-- `getApiKeys` -/
def getApiKeys (config : AiConfigService) : List JsString := listed config.env.geminiApiKeys

/-- `getModels` -/
def getModels (config : AiConfigService) : List JsString := listed config.env.geminiModels

/-- `getCurrentApiKey`, `none` for `null` -/
def getCurrentApiKey (config : AiConfigService) : Option JsString :=
  if config.getApiKeys.length = 0 then none
  else config.getApiKeys[config.keyIndex % config.getApiKeys.length]?

/-- `getCurrentModel` -/
def getCurrentModel (config : AiConfigService) : JsString :=
  config.getModels[config.modelIndex % config.getModels.length]?.getD (js "gemini-1.5-flash")

/-- `rotateApiKey`: the state afterwards.  What it returns is `getCurrentApiKey` there. -/
def rotateApiKey (config : AiConfigService) : AiConfigService :=
  if h : 0 < config.getApiKeys.length then
    { config with
      keyIndex := (config.keyIndex + 1) % config.getApiKeys.length
      keyIndex_lt := fun _ => Nat.mod_lt _ h }
  else config

/-- `rotateModel`: the state afterwards.  What it returns is `getCurrentModel` there. -/
def rotateModel (config : AiConfigService) : AiConfigService :=
  if h : 0 < config.getModels.length then
    { config with
      modelIndex := (config.modelIndex + 1) % config.getModels.length
      modelIndex_lt := fun _ => Nat.mod_lt _ h }
  else config

/-- The first state of a key is changed, where there is one. -/
def markKey (config : AiConfigService) (apiKey : JsString) (mark : AiKeyState → AiKeyState) :
    AiConfigService :=
  match config.keyStates.findIdx? (·.apiKey = apiKey) with
  | none => config
  | some i => { config with keyStates := config.keyStates.modify i mark }

/-- `markKeyFailure` -/
def markKeyFailure (config : AiConfigService) (apiKey : JsString) (isRateLimited : Bool)
    (date : Date) : AiConfigService :=
  config.markKey apiKey fun state =>
    { state with
      consecutiveFailures := state.consecutiveFailures + 1
      isRateLimited := isRateLimited
      lastErrorAt := some date }

/-- `markKeySuccess` -/
def markKeySuccess (config : AiConfigService) (apiKey : JsString) : AiConfigService :=
  config.markKey apiKey fun state =>
    { state with consecutiveFailures := 0, isRateLimited := false, lastErrorAt := none }

end AiConfigService

/-! ## `ai.service.ts` -/

/-- What is thrown while a model is asked: an `Error` with its message, or another value with its
    string. -/
inductive Thrown where
  | error (message : JsString)
  | value (string : JsString)
deriving DecidableEq

/-- `error instanceof Error ? error.message : String(error)` -/
def Thrown.errorMessage : Thrown → JsString
  | .error message => message
  | .value string => string

/-- What a call of the service comes to, and when: `response.text()`, or what is thrown before it
    (by the timeout too). -/
inductive AiAnswer where
  | response (text : JsString) (date : Date)
  | failure (thrown : Thrown) (date : Date)
deriving DecidableEq

/-- A call of the service. -/
structure AiTry where
  keyPosition : Nat
  modelPosition : Nat
  apiKey : JsString
  modelName : JsString
deriving DecidableEq

/-- `{ text, model, apiKey }` -/
structure AiResult where
  text : JsString
  model : JsString
  apiKey : JsString
deriving DecidableEq

/-- A `ServiceUnavailableException`. -/
structure AiUnavailable where
  code : JsString
  message : JsString
deriving DecidableEq

/-- What `generateContent` has done so far. -/
structure AiRun where
  config : AiConfigService
  tried : List AiTry
  lastError : Option Thrown
deriving DecidableEq

/-- `errorMessage.includes(…)` -/
def isRateLimitMessage (errorMessage : JsString) : Bool :=
  js "429" <:+: errorMessage || js "quota" <:+: errorMessage ||
    js "RESOURCE_EXHAUSTED" <:+: errorMessage

/-- What the `try` block ends with: the trimmed text, or what it throws, and when. -/
def AiAnswer.outcome : AiAnswer → Except (Thrown × Date) JsString
  | .response text date =>
    if trim text = [] then .error (.error (js "AI returned empty response"), date)
    else .ok (trim text)
  | .failure thrown date => .error (thrown, date)

/-- The `try` block and its `catch`, with the run afterwards and what is returned, if anything.  A key
    is marked as a success as soon as there is a response, also an empty one. -/
def AiRun.attempt (ask : AiTry → AiAnswer) (apiKey modelName : JsString) (run : AiRun) :
    AiRun × Option AiResult :=
  let tried : AiTry :=
    { keyPosition := run.config.keyIndex % run.config.getApiKeys.length
      modelPosition := run.config.modelIndex % run.config.getModels.length
      apiKey := apiKey
      modelName := modelName }
  let config :=
    match ask tried with
    | .response _ _ => run.config.markKeySuccess apiKey
    | .failure _ _ => run.config
  match (ask tried).outcome with
  | .ok text =>
    ({ run with config := config, tried := run.tried ++ [tried] },
      some { text := text, model := modelName, apiKey := apiKey })
  | .error (thrown, date) =>
    ({ config := config.markKeyFailure apiKey (isRateLimitMessage thrown.errorMessage) date
       tried := run.tried ++ [tried]
       lastError := some thrown }, none)

/-- The loop over the models, of which `modelAttempts` are left. -/
def AiRun.modelLoop (ask : AiTry → AiAnswer) (model : Option JsString) (apiKey : JsString) :
    List Nat → AiRun → AiRun × Option AiResult
  | [], run => (run, none)
  | modelAttempt :: modelAttempts, run =>
    let config := if modelAttempt = 0 then run.config else run.config.rotateModel
    let modelName :=
      if modelAttempt = 0 then model.getD config.getCurrentModel else config.getCurrentModel
    -- `request.model` is for the first attempt only
    match AiRun.attempt ask apiKey modelName { run with config := config } with
    | (run, some result) => (run, some result)
    | (run, none) => modelLoop ask model apiKey modelAttempts run

/-- The loop over the keys, of which `keys` are left. -/
def AiRun.keyLoop (ask : AiTry → AiAnswer) (model : Option JsString) (apiKeys models : List JsString) :
    Nat → AiRun → AiRun × Option AiResult
  | 0, run => (run, none)
  | keys + 1, run =>
    let apiKey := run.config.getCurrentApiKey.getD (apiKeys.head?.getD [])
    match AiRun.modelLoop ask model apiKey (List.range models.length) run with
    | (run, some result) => (run, some result)
    | (run, none) =>
      keyLoop ask model apiKeys models keys { run with config := run.config.rotateApiKey }

/-- The exception after both loops. -/
def AiUnavailable.ofLastError (lastError : Option Thrown) : AiUnavailable where
  code := js "AI_SERVICE_UNAVAILABLE"
  message :=
    match lastError with
    | some (.error message) => message
    | _ => js "AI service is unavailable"

/-- `generateContent`, with the calls it makes and the state of the keys afterwards; `model` is
    `request.model`. -/
def AiConfigService.generateContent (config : AiConfigService) (ask : AiTry → AiAnswer)
    (model : Option JsString) : AiRun × Except AiUnavailable AiResult :=
  let apiKeys := config.getApiKeys
  let models :=
    match model with
    | some model => if model = [] then config.getModels else [model]
    | none => config.getModels
  let run : AiRun := { config := config, tried := [], lastError := none }
  if apiKeys.length = 0 then
    (run, .error
      { code := js "AI_MISSING_API_KEY", message := js "Gemini API key is not configured" })
  else if models.length = 0 then
    (run, .error { code := js "AI_MISSING_MODEL", message := js "Gemini model is not configured" })
  else
    match AiRun.keyLoop ask model apiKeys models apiKeys.length run with
    | (run, some result) => (run, .ok result)
    | (run, none) => (run, .error (.ofLastError run.lastError))

end ChatSC.Backend
