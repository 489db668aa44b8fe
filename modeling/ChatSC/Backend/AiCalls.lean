import ChatSC.Backend.AiService

/-!
# Calls of `generateContent` at the same time (`ai.service.ts`)

Any number of calls share one `AiConfigService`.  A call stands still only at its two `await`s: at the
`Promise.race` of a model with the timeout, and at `result.response`.  What it does between two of
them, with all changes of the shared indices, is one event.

`asked` is the attempt under way.  Its positions are those where the key and the model were read; the
indices of the service can stand elsewhere by the time it is answered.
-/

namespace ChatSC.Backend

open JsString

/-- Where a call stands. -/
inductive AiCallPc where
  /-- at `Promise.race`, in turn `keyAttempt` of the keys and `modelAttempt` of the models -/
  | asking (keyAttempt modelAttempt : Nat) (asked : AiTry)
  /-- at `result.response` -/
  | responding (keyAttempt modelAttempt : Nat) (asked : AiTry)
  | returned (result : AiResult)
  | threw (exception : AiUnavailable)
deriving DecidableEq

/-- A call of `generateContent`; `model` is `request.model`. -/
structure AiCall where
  model : Option JsString
  tried : List AiTry
  lastError : Option Thrown
  pc : AiCallPc
deriving DecidableEq

/-- `models` of a call. -/
def modelsFor (config : AiConfigService) (model : Option JsString) : List JsString :=
  match model with
  | some model => if model = [] then config.getModels else [model]
  | none => config.getModels

/-- A response marks its key as a success, also an empty one. -/
def AiAnswer.mark (answer : AiAnswer) (config : AiConfigService) (apiKey : JsString) :
    AiConfigService :=
  match answer with
  | .response _ _ => config.markKeySuccess apiKey
  | .failure _ _ => config

namespace AiCall

/-- The attempt with a model, up to `Promise.race`, in the state in which the model was read. -/
def startModel (config : AiConfigService) (call : AiCall) (keyAttempt modelAttempt keyPosition : Nat)
    (apiKey modelName : JsString) : AiConfigService × AiCall :=
  let asked : AiTry :=
    { keyPosition := keyPosition
      modelPosition := config.modelIndex % config.getModels.length
      apiKey := apiKey
      modelName := modelName }
  (config, { call with tried := call.tried ++ [asked], pc := .asking keyAttempt modelAttempt asked })

/-- The body of the loop over the keys, up to the first attempt, or the end of the loop. -/
def startKey (config : AiConfigService) (call : AiCall) (keyAttempt : Nat) :
    AiConfigService × AiCall :=
  if keyAttempt < config.getApiKeys.length then
    startModel config call keyAttempt 0 (config.keyIndex % config.getApiKeys.length)
      (config.getCurrentApiKey.getD (config.getApiKeys.head?.getD []))
      (call.model.getD config.getCurrentModel)
  else (config, { call with pc := .threw (.ofLastError call.lastError) })

/-- What the call does when an attempt comes to an answer: it returns, or goes on with the next model
    or the next key. -/
def settle (config : AiConfigService) (call : AiCall) (keyAttempt modelAttempt : Nat) (asked : AiTry)
    (answer : AiAnswer) : AiConfigService × AiCall :=
  let config := answer.mark config asked.apiKey
  match answer.outcome with
  | .ok text =>
    (config,
      { call with
        pc := .returned { text := text, model := asked.modelName, apiKey := asked.apiKey } })
  | .error (thrown, date) =>
    -- the shared indices move on from where they are now, not from where this call read them
    let config := config.markKeyFailure asked.apiKey (isRateLimitMessage thrown.errorMessage) date
    let call := { call with lastError := some thrown }
    if modelAttempt + 1 < (modelsFor config call.model).length then
      startModel config.rotateModel call keyAttempt (modelAttempt + 1) asked.keyPosition asked.apiKey
        config.rotateModel.getCurrentModel
    else startKey config.rotateApiKey call (keyAttempt + 1)

end AiCall

/-- A call up to its first `await`. -/
def AiConfigService.startCall (config : AiConfigService) (model : Option JsString) :
    AiConfigService × AiCall :=
  let call (pc : AiCallPc) : AiCall := { model := model, tried := [], lastError := none, pc := pc }
  -- without a key or a model it ends before any `await`
  if config.getApiKeys.length = 0 then
    (config, call (.threw
      { code := js "AI_MISSING_API_KEY", message := js "Gemini API key is not configured" }))
  else if (modelsFor config model).length = 0 then
    (config, call (.threw
      { code := js "AI_MISSING_MODEL", message := js "Gemini model is not configured" }))
  else AiCall.startKey config (call (.threw (.ofLastError none))) 0

/-! ## The calls of a service -/

/-- The shared service and all the calls made so far. -/
structure AiSystem where
  config : AiConfigService
  calls : List AiCall
deriving DecidableEq

/-- A new call, or what an `await` of a call comes to. -/
inductive AiEvent where
  | call (model : Option JsString)
  /-- the model answers before the timeout -/
  | resolve (index : Nat)
  /-- the model fails, or the timeout comes first -/
  | reject (index : Nat) (thrown : Thrown) (date : Date)
  /-- `result.response` and its `text()` -/
  | respond (index : Nat) (answer : AiAnswer)
deriving DecidableEq

/-- The call at an index goes on. -/
def AiSystem.put (system : AiSystem) (index : Nat) (next : AiConfigService × AiCall) : AiSystem :=
  ⟨next.1, system.calls.set index next.2⟩

/-- One step; `none` when the event cannot happen. -/
def aiStep (system : AiSystem) : AiEvent → Option AiSystem
  | .call model =>
    let (config, call) := system.config.startCall model
    some ⟨config, system.calls ++ [call]⟩
  | .resolve index =>
    match system.calls[index]? with
    | some call =>
      match call.pc with
      | .asking keyAttempt modelAttempt asked =>
        some (system.put index
          (system.config, { call with pc := .responding keyAttempt modelAttempt asked }))
      | _ => none
    | none => none
  | .reject index thrown date =>
    match system.calls[index]? with
    | some call =>
      match call.pc with
      | .asking keyAttempt modelAttempt asked =>
        some (system.put index
          (call.settle system.config keyAttempt modelAttempt asked (.failure thrown date)))
      | _ => none
    | none => none
  | .respond index answer =>
    match system.calls[index]? with
    | some call =>
      match call.pc with
      | .responding keyAttempt modelAttempt asked =>
        some (system.put index (call.settle system.config keyAttempt modelAttempt asked answer))
      | _ => none
    | none => none

end ChatSC.Backend
