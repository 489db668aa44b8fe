import ChatSC.Backend.AiFeatures
import ChatSC.Spec.AiFallback

/-!
# What the features get of the fallback

Every feature asks `generateContent` for the model that is the current one, and a request with a model
has no other models to fall back on: its attempts are those with each key and this one model.  So a
feature reports that the service is unavailable when no key answers with the current model, whatever
the other models would have answered.
-/

namespace ChatSC.Spec

open Attempts Backend JsString

/-! ## A request with a model -/

section Loops

variable {ask : AiTry → AiAnswer} {env : GeminiEnv} {run : AiRun} {k m : Nat} {model : JsString}

/-- The call with the key at a position and a model of the request, while the models stand at `m`. -/
def tryWith (env : GeminiEnv) (m : Nat) (model : JsString) (k : Nat) : AiTry where
  keyPosition := k
  modelPosition := m % env.modelCount
  apiKey := (listed env.geminiApiKeys)[k]?.getD []
  modelName := model

/-- The loop over the models makes one attempt, with the model of the request. -/
theorem modelLoop_single (apiKey : JsString) :
    AiRun.modelLoop ask (some model) apiKey (List.range [model].length) run =
      run.attempt ask apiKey model := by
  rw [List.length_singleton, List.range_one, AiRun.modelLoop]
  simp only [if_true, Option.getD_some]
  generalize run.attempt ask apiKey model = attempt
  obtain ⟨after, result⟩ := attempt
  cases result <;> rfl

/-- The loop over the keys makes an attempt with each key in turn. -/
theorem keyLoop_single (hkeys : 0 < env.keyCount) (apiKeys : List JsString) (i n : Nat)
    (h : StandsAt env ((k + i) % env.keyCount) m run.config) :
    let calls := (List.range' i n).map fun j => tryWith env m model ((k + j) % env.keyCount)
    (AiRun.keyLoop ask (some model) apiKeys [model] n run).2 =
      (attempts (resultOf ask) calls).2 := by
  induction n generalizing i run with
  | zero => rfl
  | succ n ih =>
    have hk := Nat.mod_lt (k + i) hkeys
    have hkey : run.config.getCurrentApiKey.getD (apiKeys.head?.getD []) =
        (tryWith env m model ((k + i) % env.keyCount)).apiKey := by
      rw [h.getCurrentApiKey hk]
      rfl
    obtain ⟨hresult, -, hat⟩ :=
      attempt_spec ask h (tryWith env m model ((k + i) % env.keyCount)).apiKey model
    rw [Nat.mod_mod] at hresult
    simp only [List.range'_succ, List.map_cons, AiRun.keyLoop, modelLoop_single, hkey]
    generalize run.attempt ask _ model = attempt at *
    obtain ⟨after, result⟩ := attempt
    cases hask : resultOf ask (tryWith env m model ((k + i) % env.keyCount)) with
    | some answer =>
      rw [attempts_cons_of_some hask]
      obtain rfl : result = some answer := hresult.trans hask
      rfl
    | none =>
      rw [attempts_cons_of_none hask]
      obtain rfl : result = none := hresult.trans hask
      -- the key is the next one, and the model stays
      have hnext := hat.rotateApiKey hkeys
      rw [Nat.mod_add_mod, Nat.add_assoc] at hnext
      exact @ih { after with config := after.config.rotateApiKey } (i + 1) hnext

end Loops

/-! ## When a request fails -/

section Config

variable {config : AiConfigService}

/-- Some key answers with the current model. -/
def AnswersWithCurrent (config : AiConfigService) (ask : AiTry → AiAnswer) : Prop :=
  ∃ key < config.getApiKeys.length, (answerText ask
    (tryWith config.env config.modelIndex config.getCurrentModel key)).isSome = true

/-- No pair of a configured key and a configured model answers. -/
def AllPairsFail (config : AiConfigService) (ask : AiTry → AiAnswer) : Prop :=
  ∀ key < config.getApiKeys.length, ∀ model < config.getModels.length,
    answerText ask (tryAt config.env (key, model)) = none

instance (config : AiConfigService) (ask : AiTry → AiAnswer) :
    Decidable (AnswersWithCurrent config ask) :=
  inferInstanceAs (Decidable (∃ key < _, _ = true))

instance (config : AiConfigService) (ask : AiTry → AiAnswer) : Decidable (AllPairsFail config ask) :=
  inferInstanceAs (Decidable (∀ key < _, ∀ model < _, _ = none))

/-- The current model has a name. -/
theorem getCurrentModel_ne_nil (config : AiConfigService) : config.getCurrentModel ≠ [] := by
  unfold AiConfigService.getCurrentModel
  cases hmodel : config.getModels[config.modelIndex % config.getModels.length]? with
  | none => decide
  | some model =>
    have hmem := List.mem_of_getElem? hmodel
    exact of_decide_eq_true (List.mem_filter.mp hmem).2

theorem resultOf_eq_none {ask : AiTry → AiAnswer} {call : AiTry} :
    resultOf ask call = none ↔ answerText ask call = none :=
  Option.map_eq_none_iff

/-- The loop over the keys finds no answer with the current model when no key has one. -/
theorem keyLoop_current (hkeys : config.getApiKeys ≠ []) (ask : AiTry → AiAnswer) :
    (AiRun.keyLoop ask (some config.getCurrentModel) config.getApiKeys [config.getCurrentModel]
        config.getApiKeys.length { config := config, tried := [], lastError := none }).2 = none ↔
      ¬ AnswersWithCurrent config ask := by
  have hat : StandsAt config.env ((config.keyIndex + 0) % config.env.keyCount) config.modelIndex
      config := by
    rw [Nat.add_zero, Nat.mod_eq_of_lt (config.keyIndex_lt hkeys)]
    exact ⟨rfl, rfl, rfl⟩
  have hloop := @keyLoop_single ask config.env { config := config, tried := [], lastError := none }
    config.keyIndex config.modelIndex config.getCurrentModel (List.length_pos_iff.mpr hkeys)
    config.getApiKeys 0 config.getApiKeys.length hat
  simp only at hloop
  rw [hloop, attempts_snd_eq_none, AnswersWithCurrent]
  -- every key has its turn, from the current one on
  simp only [← List.range_eq_range', List.forall_mem_map, resultOf_eq_none, not_exists, not_and,
    Bool.not_eq_true, Option.isSome_eq_false_iff, Option.isNone_iff_eq_none]
  exact forall_mem_turn (P := fun key => answerText ask
    (tryWith config.env config.modelIndex config.getCurrentModel key) = none)

/-- A request for the current model fails as unavailable when there are keys and none of them answers
    with it. -/
theorem generateContent_unavailable_iff (config : AiConfigService) (ask : AiTry → AiAnswer) :
    (∃ message, (config.generateContent ask (some config.getCurrentModel)).2 =
        .error ⟨js "AI_SERVICE_UNAVAILABLE", message⟩) ↔
      config.getApiKeys ≠ [] ∧ ¬ AnswersWithCurrent config ask := by
  have hmodel := getCurrentModel_ne_nil config
  by_cases hkeys : config.getApiKeys = []
  · -- without a key the error is another one
    have hcode : js "AI_MISSING_API_KEY" ≠ js "AI_SERVICE_UNAVAILABLE" := by decide
    simp [AiConfigService.generateContent, hkeys, hcode]
  · have hloop := keyLoop_current hkeys ask
    simp only [AiConfigService.generateContent, if_neg hmodel, List.length_eq_zero_iff,
      if_neg hkeys, List.cons_ne_self, if_false]
    rcases hafter : AiRun.keyLoop ask (some config.getCurrentModel) config.getApiKeys
      [config.getCurrentModel] config.getApiKeys.length
        { config := config, tried := [], lastError := none } with ⟨run, result⟩
    rw [hafter] at hloop
    rw [← hloop]
    cases result with
    | none => simp [hkeys, AiUnavailable.ofLastError]
    | some result => simp

end Config

/-! ## The features -/

/-- A call of a feature. -/
inductive AiFeature where
  | generateResponse (history : List ChatMessagePayload) (content : JsString)
  | analyzeMessage (messageId content : JsString)
  | generateSuggestions (history : List ChatMessagePayload)

/-- What a call rejects with, if it does. -/
def rejection {α : Type} : Except AiError α → Option AiError
  | .ok _ => none
  | .error error => some error

section Features

variable (toLowerCase : JsString → JsString) (isZero : JsString → Bool)
  (parse : JsString → Option Json) (config : AiConfigService) (settings : AiSettings)
  (ask : GeminiRequest → AiTry → AiAnswer)

/-- What a call of a feature rejects with. -/
def AiFeature.rejects : AiFeature → Option AiError
  | .generateResponse history content =>
    rejection (Backend.generateResponse config settings ask history content).2
  | .analyzeMessage messageId content =>
    rejection (Backend.analyzeMessage toLowerCase isZero config settings ask parse messageId
      content).2
  | .generateSuggestions history =>
    rejection (Backend.generateSuggestions config settings ask parse history).2

/-- The request of a call; none for suggestions without a text. -/
def AiFeature.request : AiFeature → Option GeminiRequest
  | .generateResponse history content => some (responseRequest config settings history content)
  | .analyzeMessage _ content => some (moderationRequest config settings content)
  | .generateSuggestions history => (recentTexts history).getLast?.map fun latest =>
    suggestionsRequest config settings (recentTexts history) latest

/-- A call is reported as `AI_SERVICE_UNAVAILABLE`. -/
def ReportsUnavailable (feature : AiFeature) : Prop :=
  ∃ message, feature.rejects toLowerCase isZero parse config settings ask =
    some (.unavailable ⟨js "AI_SERVICE_UNAVAILABLE", message⟩)

variable {config} {ask}

/-- `generateText` is unavailable when `generateContent` is. -/
theorem generateText_unavailable (request : GeminiRequest) (exception : AiUnavailable) :
    (config.generateText ask request).2 = .error (.unavailable exception) ↔
      (config.generateContent (ask request) (some request.model)).2 = .error exception := by
  unfold AiConfigService.generateText
  rcases config.generateContent (ask request) (some request.model) with ⟨run, result⟩
  cases result <;> simp

/-- `generateJson` is, likewise: an answer that cannot be parsed is another error. -/
theorem generateJson_unavailable (request : GeminiRequest) (exception : AiUnavailable) :
    (config.generateJson ask parse request).2 = .error (.unavailable exception) ↔
      (config.generateContent (ask request) (some request.model)).2 = .error exception := by
  unfold AiConfigService.generateJson
  rcases config.generateContent (ask request) (some request.model) with ⟨run, result⟩
  cases result with
  | error error => simp
  | ok parsed => cases hparse : parse parsed.text <;> simp [hparse]

variable {settings}

/-- A feature rejects as unavailable when its request does. -/
theorem rejects_unavailable (feature : AiFeature) (exception : AiUnavailable) :
    feature.rejects toLowerCase isZero parse config settings ask = some (.unavailable exception) ↔
      ∃ request, feature.request config settings = some request ∧
        (config.generateContent (ask request) (some config.getCurrentModel)).2 =
          .error exception := by
  cases feature with
  | generateResponse history content =>
    have htext := @generateText_unavailable config ask
      (responseRequest config settings history content) exception
    simp only [AiFeature.rejects, AiFeature.request, generateResponse, Option.some.injEq,
      exists_eq_left']
    rw [← show (responseRequest config settings history content).model = config.getCurrentModel
      from rfl, ← htext]
    rcases config.generateText ask (responseRequest config settings history content) with
      ⟨run, result⟩
    cases result <;> simp [rejection, Except.map]
  | analyzeMessage messageId content =>
    have hjson := @generateJson_unavailable parse config ask
      (moderationRequest config settings content) exception
    simp only [AiFeature.rejects, AiFeature.request, analyzeMessage, Option.some.injEq,
      exists_eq_left']
    rw [← show (moderationRequest config settings content).model = config.getCurrentModel from rfl,
      ← hjson]
    rcases config.generateJson ask parse (moderationRequest config settings content) with
      ⟨run, result⟩
    cases result with
    | error error => simp [rejection]
    -- what is made of an answer is no rejection as unavailable
    | ok result => cases result <;> simp [rejection, moderationResult]
  | generateSuggestions history =>
    simp only [AiFeature.rejects, AiFeature.request, generateSuggestions]
    cases hlatest : (recentTexts history).getLast? with
    -- without a text nothing is asked
    | none => simp [rejection]
    | some latest =>
      have hjson := @generateJson_unavailable parse config ask
        (suggestionsRequest config settings (recentTexts history) latest) exception
      simp only [Option.map_some, Option.some.injEq, exists_eq_left']
      rw [← show (suggestionsRequest config settings (recentTexts history) latest).model =
        config.getCurrentModel from rfl, ← hjson]
      rcases config.generateJson ask parse
        (suggestionsRequest config settings (recentTexts history) latest) with ⟨run, result⟩
      cases result with
      | error error => simp [rejection]
      | ok result => cases result <;> simp [rejection, suggestionsOf]

/-- A call is reported as unavailable exactly when it asks, with keys, of which none answers with the
    current model. -/
theorem reportsUnavailable_iff (feature : AiFeature) :
    ReportsUnavailable toLowerCase isZero parse config settings ask feature ↔
      ∃ request, feature.request config settings = some request ∧ config.getApiKeys ≠ [] ∧
        ¬ AnswersWithCurrent config (ask request) := by
  simp only [ReportsUnavailable, rejects_unavailable, ← generateContent_unavailable_iff]
  constructor
  · rintro ⟨message, request, hrequest, hfails⟩
    exact ⟨request, hrequest, message, hfails⟩
  · rintro ⟨request, hrequest, message, hfails⟩
    exact ⟨message, request, hrequest, hfails⟩

/-- **A feature is reported as unavailable only if all pairs fail, exactly when some key answers with
    the current model or no pair answers at all**, in a request that it makes. -/
theorem unavailable_only_if_all_fail_iff (feature : AiFeature) :
    (ReportsUnavailable toLowerCase isZero parse config settings ask feature →
        ∃ request, feature.request config settings = some request ∧
          AllPairsFail config (ask request)) ↔
      ∀ request, feature.request config settings = some request →
        AnswersWithCurrent config (ask request) ∨ AllPairsFail config (ask request) := by
  rw [reportsUnavailable_iff]
  constructor
  · intro h request hrequest
    by_cases hanswers : AnswersWithCurrent config (ask request)
    · exact .inl hanswers
    by_cases hkeys : config.getApiKeys = []
    · -- without a key there is no pair
      refine .inr fun key hkey => ?_
      rw [hkeys] at hkey
      exact absurd hkey (Nat.not_lt_zero key)
    · obtain ⟨request', hrequest', hall⟩ := h ⟨request, hrequest, hkeys, hanswers⟩
      obtain rfl := Option.some.inj (hrequest.symm.trans hrequest')
      exact .inr hall
  · rintro h ⟨request, hrequest, -, hno⟩
    exact ⟨request, hrequest, (h request hrequest).resolve_left hno⟩

end Features

/-! ## A model that is limited -/

/-- One key and two models, of which the first is the current one. -/
def twoModels : AiConfigService :=
  .create { geminiApiKeys := js "k1", geminiModels := js "m1,m2" }

/-- The first model fails, the second answers. -/
def limitedModel (_ : GeminiRequest) (call : AiTry) : AiAnswer :=
  if call.modelName = js "m1" then .failure (.error (js "429")) 0 else .response (js "ok") 0

/-- Moderation is unavailable, although the key answers with the other model. -/
theorem second_model_not_tried : ¬ ∀ (config : AiConfigService) (settings : AiSettings)
    (ask : GeminiRequest → AiTry → AiAnswer) (feature : AiFeature),
      ReportsUnavailable id (· = js "0") (fun _ => none) config settings ask feature →
        ∃ request, feature.request config settings = some request ∧
          AllPairsFail config (ask request) := by
  intro h
  let feature : AiFeature := .analyzeMessage (js "m") (js "hi")
  obtain ⟨request, -, hall⟩ := h twoModels ⟨30000, 5000, 10000, 10⟩ limitedModel feature
    ((reportsUnavailable_iff ..).mpr ⟨_, rfl, by decide, by decide⟩)
  have hfails : answerText (limitedModel ⟨[], [], none, none⟩) (tryAt twoModels.env (0, 1)) = none :=
    hall 0 (by decide) 1 (by decide)
  exact absurd hfails (by decide)

end ChatSC.Spec
