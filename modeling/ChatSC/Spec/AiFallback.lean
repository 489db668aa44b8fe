import ChatSC.Backend.AiService
import ChatSC.ForStd.Attempts
import Mathlib.Data.Int.ModEq

/-!
# The AI service falls back on every pair of a key and a model

The two loops of `generateContent` are the attempts of `Attempts.grid`, from the current key and the
current model on: the first model of a key is the current one, so the turn of the models for the next
key starts where the last turn has ended, one position earlier than the turn before.
-/

namespace ChatSC.Spec

open Attempts Backend JsString

/-! ## A call at its positions -/

/-- The call with the key and the model at two positions. -/
def tryAt (env : GeminiEnv) (pair : Nat × Nat) : AiTry where
  keyPosition := pair.1
  modelPosition := pair.2
  apiKey := (listed env.geminiApiKeys)[pair.1]?.getD []
  modelName := (listed env.geminiModels)[pair.2]?.getD []

/-- What the call with a pair returns, where it succeeds. -/
def resultAt (ask : AiTry → AiAnswer) (env : GeminiEnv) (pair : Nat × Nat) : Option AiResult :=
  (ask (tryAt env pair)).outcome.toOption.map fun text =>
    { text := text, model := (tryAt env pair).modelName, apiKey := (tryAt env pair).apiKey }

section Config

variable {env : GeminiEnv} {config : AiConfigService} {k m : Nat}

/-- Rotating leaves what is configured. -/
theorem env_rotateApiKey (config : AiConfigService) : config.rotateApiKey.env = config.env := by
  unfold AiConfigService.rotateApiKey
  split <;> rfl

theorem env_rotateModel (config : AiConfigService) : config.rotateModel.env = config.env := by
  unfold AiConfigService.rotateModel
  split <;> rfl

theorem getApiKeys_congr {config' : AiConfigService} (h : config'.env = config.env) :
    config'.getApiKeys = config.getApiKeys := by
  rw [AiConfigService.getApiKeys, h, AiConfigService.getApiKeys]

/-- The positions that a service is at. -/
structure StandsAt (env : GeminiEnv) (k m : Nat) (config : AiConfigService) : Prop where
  env_eq : config.env = env
  keyIndex_eq : config.keyIndex = k
  modelIndex_eq : config.modelIndex = m

theorem StandsAt.markKey (h : StandsAt env k m config) (apiKey : JsString)
    (mark : AiKeyState → AiKeyState) : StandsAt env k m (config.markKey apiKey mark) := by
  unfold AiConfigService.markKey
  split
  · exact h
  · exact ⟨h.env_eq, h.keyIndex_eq, h.modelIndex_eq⟩

theorem StandsAt.markKeyFailure (h : StandsAt env k m config) (apiKey : JsString)
    (isRateLimited : Bool) (date : Date) :
    StandsAt env k m (config.markKeyFailure apiKey isRateLimited date) :=
  h.markKey apiKey _

theorem StandsAt.markKeySuccess (h : StandsAt env k m config) (apiKey : JsString) :
    StandsAt env k m (config.markKeySuccess apiKey) :=
  h.markKey apiKey _

theorem StandsAt.rotateApiKey (h : StandsAt env k m config) (hkeys : 0 < env.keyCount) :
    StandsAt env ((k + 1) % env.keyCount) m config.rotateApiKey := by
  obtain ⟨rfl, rfl, rfl⟩ := h
  have hlen : 0 < config.getApiKeys.length := hkeys
  rw [AiConfigService.rotateApiKey, dif_pos hlen]
  exact ⟨rfl, rfl, rfl⟩

theorem StandsAt.rotateModel (h : StandsAt env k m config) (hmodels : 0 < env.modelCount) :
    StandsAt env k ((m + 1) % env.modelCount) config.rotateModel := by
  obtain ⟨rfl, rfl, rfl⟩ := h
  have hlen : 0 < config.getModels.length := hmodels
  rw [AiConfigService.rotateModel, dif_pos hlen]
  exact ⟨rfl, rfl, rfl⟩

/-- A service that comes to its position with the next rotation is one position before it. -/
theorem StandsAt.of_rotateModel (hmodels : 0 < env.modelCount)
    (h : StandsAt env k ((m + env.modelCount) % env.modelCount)
      config.rotateModel) :
    StandsAt env k ((m + (env.modelCount - 1)) % env.modelCount)
      config := by
  obtain rfl : config.env = env := (env_rotateModel config).symm.trans h.env_eq
  have hat : StandsAt config.env config.keyIndex config.modelIndex config := ⟨rfl, rfl, rfl⟩
  have hrotated := hat.rotateModel hmodels
  refine ⟨rfl, hrotated.keyIndex_eq.symm.trans h.keyIndex_eq, ?_⟩
  have hnext := hrotated.modelIndex_eq.symm.trans h.modelIndex_eq
  have hlt : config.modelIndex < config.env.modelCount :=
    config.modelIndex_lt (List.length_pos_iff.mp hmodels)
  generalize config.env.modelCount = count at *
  -- both sides of `hnext` turned back by one
  have hback : Nat.ModEq count (config.modelIndex + 1 + (count - 1)) (m + count + (count - 1)) :=
    Nat.ModEq.add_right _ hnext
  have hturned : config.modelIndex + 1 + (count - 1) = config.modelIndex + count := by omega
  have hsame : m + count + (count - 1) = m + (count - 1) + count := by omega
  rw [hturned, hsame, Nat.ModEq, Nat.add_mod_right, Nat.add_mod_right,
    Nat.mod_eq_of_lt hlt] at hback
  exact hback

theorem StandsAt.getCurrentApiKey (h : StandsAt env k m config) (hk : k < env.keyCount) :
    config.getCurrentApiKey = some (tryAt env (k, m)).apiKey := by
  obtain ⟨rfl, rfl, rfl⟩ := h
  have hne : ¬ config.getApiKeys.length = 0 := Nat.ne_of_gt (Nat.zero_lt_of_lt hk)
  rw [AiConfigService.getCurrentApiKey, if_neg hne, AiConfigService.getApiKeys, Nat.mod_eq_of_lt hk]
  simp [tryAt, hk]

theorem StandsAt.getCurrentModel (h : StandsAt env k m config) (hm : m < env.modelCount) :
    config.getCurrentModel = (tryAt env (k, m)).modelName := by
  obtain ⟨rfl, rfl, rfl⟩ := h
  rw [AiConfigService.getCurrentModel, AiConfigService.getModels, Nat.mod_eq_of_lt hm]
  simp [tryAt, hm]

end Config

section Loops

variable {ask : AiTry → AiAnswer} {env : GeminiEnv} {run : AiRun} {k m : Nat}

/-- What a call returns, where it succeeds. -/
def resultOf (ask : AiTry → AiAnswer) (call : AiTry) : Option AiResult :=
  (ask call).outcome.toOption.map fun text =>
    { text := text, model := call.modelName, apiKey := call.apiKey }

variable (ask) in
/-- An attempt is a call at the positions of the service, which stay as they are. -/
theorem attempt_spec (h : StandsAt env k m run.config) (apiKey modelName : JsString) :
    let call : AiTry := ⟨k % env.keyCount, m % env.modelCount, apiKey, modelName⟩
    (run.attempt ask apiKey modelName).2 = resultOf ask call ∧
      (run.attempt ask apiKey modelName).1.tried = run.tried ++ [call] ∧
      StandsAt env k m (run.attempt ask apiKey modelName).1.config := by
  -- the call is recorded at the positions of the service
  have hcall : (AiTry.mk (run.config.keyIndex % run.config.getApiKeys.length)
      (run.config.modelIndex % run.config.getModels.length) apiKey modelName) =
        ⟨k % env.keyCount, m % env.modelCount, apiKey, modelName⟩ := by
    obtain ⟨rfl, rfl, rfl⟩ := h
    rfl
  simp only [AiRun.attempt, hcall, resultOf]
  cases hask : ask ⟨k % env.keyCount, m % env.modelCount, apiKey, modelName⟩ with
  | response text date =>
    unfold AiAnswer.outcome
    -- an empty text is thrown after `markKeySuccess`, into the `catch` block
    by_cases hempty : trim text = []
    · simp only [if_pos hempty]
      exact ⟨rfl, trivial, (h.markKeySuccess apiKey).markKeyFailure apiKey _ _⟩
    · simp only [if_neg hempty]
      exact ⟨rfl, trivial, h.markKeySuccess _⟩
  | failure thrown date =>
    exact ⟨rfl, rfl, h.markKeyFailure apiKey _ _⟩

variable (ask) in
/-- The attempt with the key and the model that the service stands at. -/
theorem attempt_at (h : StandsAt env k m run.config) (hk : k < env.keyCount)
    (hm : m < env.modelCount) {apiKey modelName : JsString}
    (hkey : apiKey = (tryAt env (k, m)).apiKey) (hmodel : modelName = (tryAt env (k, m)).modelName) :
    (run.attempt ask apiKey modelName).2 = resultAt ask env (k, m) ∧
      (run.attempt ask apiKey modelName).1.tried = run.tried ++ [tryAt env (k, m)] ∧
      StandsAt env k m (run.attempt ask apiKey modelName).1.config := by
  have hattempt := attempt_spec ask h apiKey modelName
  rw [Nat.mod_eq_of_lt hk, Nat.mod_eq_of_lt hm, hkey, hmodel] at hattempt
  rw [hkey, hmodel]
  exact hattempt

/-- The state in which the loop over the models reads the model of an attempt. -/
def readState (modelAttempt : Nat) (config : AiConfigService) : AiConfigService :=
  if modelAttempt = 0 then config else config.rotateModel

/-- The step of the loop over the models, for a request without a model. -/
theorem modelLoop_cons (apiKey : JsString) (modelAttempt : Nat) (modelAttempts : List Nat) :
    AiRun.modelLoop ask none apiKey (modelAttempt :: modelAttempts) run =
      let attempt := AiRun.attempt ask apiKey (readState modelAttempt run.config).getCurrentModel
        { run with config := readState modelAttempt run.config }
      match attempt.2 with
      | some result => (attempt.1, some result)
      | none => AiRun.modelLoop ask none apiKey modelAttempts attempt.1 := by
  rw [AiRun.modelLoop]
  simp only [Option.getD_none, ite_self, readState]
  generalize AiRun.attempt ask apiKey _ _ = attempt
  obtain ⟨after, result⟩ := attempt
  cases result <;> rfl

variable (ask) in
/-- The loop over the models makes the attempts of its positions, in their order. -/
theorem modelLoop_attempts (hk : k < env.keyCount)
    (hmodels : 0 < env.modelCount) {apiKey : JsString}
    (hkey : apiKey = (tryAt env (k, m)).apiKey) (i n : Nat)
    (h : StandsAt env k ((m + i) % env.modelCount) (readState i run.config)) :
    let pairs := (List.range' i n).map fun j => (k, (m + j) % env.modelCount)
    let after := AiRun.modelLoop ask none apiKey (List.range' i n) run
    after.2 = (attempts (resultAt ask env) pairs).2 ∧
      after.1.tried = run.tried ++ (attempts (resultAt ask env) pairs).1.map (tryAt env) ∧
      (after.2 = none → StandsAt env k ((m + (i + n)) % env.modelCount)
        (readState (i + n) after.1.config)) := by
  -- on the attempts that are left; the model of the first is at the place where the last has left it
  induction n generalizing i run with
  | zero => exact ⟨rfl, (List.append_nil _).symm, fun _ => h⟩
  | succ n ih =>
    have hm := Nat.mod_lt (m + i) hmodels
    have hread : StandsAt env k ((m + i) % env.modelCount)
      { run with config := readState i run.config }.config := h
    obtain ⟨hresult, htried, hat⟩ := attempt_at ask hread hk hm hkey (h.getCurrentModel hm)
    simp only [List.range'_succ, List.map_cons, modelLoop_cons]
    cases hask : resultAt ask env (k, (m + i) % env.modelCount) with
    | some result =>
      rw [attempts_cons_of_some hask, hresult, hask]
      exact ⟨rfl, htried, fun hnone => by cases hnone⟩
    | none =>
      -- the next attempt rotates, and is at the next position
      rw [attempts_cons_of_none hask, hresult, hask]
      have hnext := hat.rotateModel hmodels
      rw [Nat.mod_add_mod, Nat.add_assoc] at hnext
      obtain ⟨hrest, hrestTried, hrestAt⟩ := ih (i + 1) hnext
      refine ⟨hrest, ?_, ?_⟩
      · rw [hrestTried, htried, List.map_cons, List.append_assoc]
        rfl
      · rw [Nat.add_right_comm, Nat.add_assoc] at hrestAt
        exact hrestAt

/-- The step of the loop over the keys, for a request without a model. -/
theorem keyLoop_succ (apiKeys models : List JsString) (keys : Nat) :
    AiRun.keyLoop ask none apiKeys models (keys + 1) run =
      let turn := AiRun.modelLoop ask none
        (run.config.getCurrentApiKey.getD (apiKeys.head?.getD [])) (List.range models.length) run
      match turn.2 with
      | some result => (turn.1, some result)
      | none => AiRun.keyLoop ask none apiKeys models keys
          { turn.1 with config := turn.1.config.rotateApiKey } := by
  rw [AiRun.keyLoop]
  generalize AiRun.modelLoop ask none _ _ run = turn
  obtain ⟨after, result⟩ := turn
  cases result <;> rfl

variable (ask) in
/-- The loop over the keys makes the attempts of the grid, row by row. -/
theorem keyLoop_attempts (hkeys : 0 < env.keyCount)
    (hmodels : 0 < env.modelCount) (apiKeys : List JsString) (i n : Nat)
    (h : StandsAt env ((k + i) % env.keyCount)
      ((m + i * (env.modelCount - 1)) % env.modelCount)
      run.config) :
    let pairs := (List.range' i n).flatMap
      (row env.keyCount env.modelCount k m)
    let after := AiRun.keyLoop ask none apiKeys (listed env.geminiModels) n run
    after.2 = (attempts (resultAt ask env) pairs).2 ∧
      after.1.tried = run.tried ++ (attempts (resultAt ask env) pairs).1.map (tryAt env) ∧
      (after.2 = none →
        after.1.config.keyIndex = (k + (i + n)) % env.keyCount) := by
  -- on the keys that are left; each starts one model before the one that its predecessor started with
  induction n generalizing i run with
  | zero => exact ⟨rfl, (List.append_nil _).symm, fun _ => h.keyIndex_eq⟩
  | succ n ih =>
    have hk := Nat.mod_lt (k + i) hkeys
    -- the first model of a key is read without a rotation
    have hstart : StandsAt env ((k + i) % env.keyCount)
        (((m + i * (env.modelCount - 1)) % env.modelCount + 0) % env.modelCount)
        (readState 0 run.config) := by
      rw [Nat.add_zero, Nat.mod_mod]
      exact h
    have hkey : run.config.getCurrentApiKey.getD (apiKeys.head?.getD []) =
        (tryAt env ((k + i) % env.keyCount,
          (m + i * (env.modelCount - 1)) % env.modelCount)).apiKey := by
      rw [h.getCurrentApiKey hk]
      rfl
    obtain ⟨hresult, htried, hat⟩ :=
      modelLoop_attempts ask hk hmodels hkey 0 env.modelCount hstart
    -- the models of this key are a row of the grid
    have hrow : row env.keyCount env.modelCount k m i = (List.range' 0 env.modelCount).map fun j =>
        ((k + i) % env.keyCount,
          ((m + i * (env.modelCount - 1)) % env.modelCount + j) % env.modelCount) := by
      rw [row, turn, List.map_map, List.range_eq_range']
      rfl
    rw [← hrow] at hresult htried
    simp only [List.range'_succ, List.flatMap_cons, keyLoop_succ, List.range_eq_range', hresult]
    generalize AiRun.modelLoop ask none _ _ run = turnRun at *
    obtain ⟨after, result⟩ := turnRun
    cases hturn : (attempts (resultAt ask env) (row env.keyCount env.modelCount k m i)).2 with
    | some result =>
      rw [attempts_append_of_some hturn]
      exact ⟨hturn.symm, htried, fun hnone => by cases hnone⟩
    | none =>
      rw [attempts_append_of_none hturn]
      -- the models have made a turn but for one position, and the key is the next one
      have hlast := hat (hresult.trans hturn)
      rw [Nat.zero_add, readState, if_neg (Nat.ne_of_gt hmodels)] at hlast
      have hnext := (hlast.of_rotateModel hmodels).rotateApiKey hkeys
      rw [Nat.mod_add_mod, Nat.mod_add_mod, Nat.add_assoc, Nat.add_assoc,
        ← Nat.succ_mul] at hnext
      obtain ⟨hrest, hrestTried, hrestKey⟩ :=
        @ih { after with config := after.config.rotateApiKey } (i + 1) hnext
      refine ⟨hrest, ?_, ?_⟩
      · rw [hrestTried, htried, (attempts_eq_none.mp hturn).1, List.map_append, List.append_assoc]
      · rw [Nat.add_right_comm, Nat.add_assoc] at hrestKey
        exact hrestKey

end Loops

/-! ## The order of a configuration -/

/-- An order of the calls of a configuration, in which each pair of a key and a model comes once. -/
structure CoversPairs (config : AiConfigService) (order : List AiTry) : Prop where
  once : (order.map fun call => (call.keyPosition, call.modelPosition)).Nodup
  all : ∀ key < config.getApiKeys.length, ∀ model < config.getModels.length,
    (key, model) ∈ order.map fun call => (call.keyPosition, call.modelPosition)
  named : ∀ call ∈ order, config.getApiKeys[call.keyPosition]? = some call.apiKey ∧
    config.getModels[call.modelPosition]? = some call.modelName

/-- What a call answers with, where it succeeds. -/
def answerText (ask : AiTry → AiAnswer) (call : AiTry) : Option JsString :=
  (ask call).outcome.toOption

/-- A run tries an order up to the first success, and returns that; it fails when there is none, with
    the key at which it has started. -/
def FallsBack (config : AiConfigService) (ask : AiTry → AiAnswer) (order : List AiTry)
    (run : AiRun) : Except AiUnavailable AiResult → Prop
  | .ok result => ∃ before call after, order = before ++ call :: after ∧
      run.tried = before ++ [call] ∧ (∀ earlier ∈ before, answerText ask earlier = none) ∧
      answerText ask call = some result.text ∧ result.model = call.modelName ∧
      result.apiKey = call.apiKey
  | .error exception => run.tried = order ∧ (∀ call ∈ order, answerText ask call = none) ∧
      run.config.keyIndex = config.keyIndex ∧ exception.code = js "AI_SERVICE_UNAVAILABLE"

section Order

variable {config : AiConfigService}

/-- The order of a configuration. -/
def pairsInOrder (config : AiConfigService) : List AiTry :=
  (grid config.env.keyCount config.env.modelCount config.keyIndex config.modelIndex).map
    (tryAt config.env)

theorem coversPairs_pairsInOrder (config : AiConfigService) :
    CoversPairs config (pairsInOrder config) := by
  have hpairs : (pairsInOrder config).map (fun call => (call.keyPosition, call.modelPosition)) =
      grid config.env.keyCount config.env.modelCount config.keyIndex config.modelIndex := by
    rw [pairsInOrder, List.map_map]
    exact List.map_id _
  refine ⟨?_, ?_, ?_⟩
  · rw [hpairs]
    exact nodup_grid
  · intro key hkey model hmodel
    rw [hpairs]
    exact mem_grid.mpr ⟨hkey, hmodel⟩
  · intro call hcall
    obtain ⟨pair, hpair, rfl⟩ := List.mem_map.mp hcall
    obtain ⟨hkey, hmodel⟩ := mem_grid.mp hpair
    simp [tryAt, AiConfigService.getApiKeys, AiConfigService.getModels, hkey, hmodel]

theorem resultAt_eq_none {ask : AiTry → AiAnswer} {env : GeminiEnv} {pair : Nat × Nat} :
    resultAt ask env pair = none ↔ answerText ask (tryAt env pair) = none :=
  Option.map_eq_none_iff

/-- The loops make the attempts of the order. -/
theorem keyLoop_pairsInOrder (hkeys : 0 < config.env.keyCount) (hmodels : 0 < config.env.modelCount)
    (ask : AiTry → AiAnswer) :
    let pairs := grid config.env.keyCount config.env.modelCount config.keyIndex config.modelIndex
    let after := AiRun.keyLoop ask none config.getApiKeys config.getModels config.getApiKeys.length
      { config := config, tried := [], lastError := none }
    after.2 = (attempts (resultAt ask config.env) pairs).2 ∧
      after.1.tried = (attempts (resultAt ask config.env) pairs).1.map (tryAt config.env) ∧
      (after.2 = none → after.1.config.keyIndex = config.keyIndex) := by
  have hkey : config.keyIndex < config.env.keyCount :=
    config.keyIndex_lt (List.length_pos_iff.mp hkeys)
  have hmodel : config.modelIndex < config.env.modelCount :=
    config.modelIndex_lt (List.length_pos_iff.mp hmodels)
  -- the service stands at the corner of the grid
  have hat : StandsAt config.env ((config.keyIndex + 0) % config.env.keyCount)
      ((config.modelIndex + 0 * (config.env.modelCount - 1)) % config.env.modelCount) config := by
    rw [Nat.zero_mul, Nat.add_zero, Nat.add_zero, Nat.mod_eq_of_lt hkey, Nat.mod_eq_of_lt hmodel]
    exact ⟨rfl, rfl, rfl⟩
  obtain ⟨hresult, htried, hafter⟩ := @keyLoop_attempts ask config.env
    { config := config, tried := [], lastError := none } config.keyIndex config.modelIndex hkeys
    hmodels config.getApiKeys 0 config.env.keyCount hat
  rw [← List.range_eq_range'] at hresult htried
  -- a whole turn of the keys comes back to the first
  rw [Nat.zero_add, Nat.add_mod_right, Nat.mod_eq_of_lt hkey] at hafter
  exact ⟨hresult, htried, hafter⟩

/-- A call of `generateContent` without a model, in a configuration with keys and models, tries an
    order of all pairs of a key and a model that the configuration fixes, up to the first success. -/
theorem generateContent_fallsBack (config : AiConfigService) (hkeys : config.getApiKeys ≠ [])
    (hmodels : config.getModels ≠ []) :
    ∃ order, CoversPairs config order ∧ ∀ ask, FallsBack config ask order
      (config.generateContent ask none).1 (config.generateContent ask none).2 := by
  refine ⟨pairsInOrder config, coversPairs_pairsInOrder config, fun ask => ?_⟩
  have hkeyCount := List.length_pos_iff.mpr hkeys
  have hmodelCount := List.length_pos_iff.mpr hmodels
  obtain ⟨hresult, htried, hkey⟩ := keyLoop_pairsInOrder hkeyCount hmodelCount ask
  simp only [AiConfigService.generateContent, if_neg (Nat.ne_of_gt hkeyCount),
    if_neg (Nat.ne_of_gt hmodelCount)]
  generalize AiRun.keyLoop ask none _ _ _ _ = after at *
  obtain ⟨run, result⟩ := after
  obtain rfl := hresult
  have hprefix := attempts_prefix (resultAt ask config.env)
    (grid config.env.keyCount config.env.modelCount config.keyIndex config.modelIndex)
  cases hfound : (attempts (resultAt ask config.env) (grid config.env.keyCount
      config.env.modelCount config.keyIndex config.modelIndex)).2 with
  | none =>
    obtain ⟨hall, hfailed⟩ := attempts_eq_none.mp hfound
    rw [hall] at htried
    -- all pairs have failed, so that all have been tried
    refine ⟨htried, ?_, hkey hfound, rfl⟩
    intro call hcall
    obtain ⟨pair, hpair, rfl⟩ := List.mem_map.mp hcall
    exact resultAt_eq_none.mp (hfailed pair hpair)
  | some result =>
    obtain ⟨before, pair, hpairs, hbefore, hpair⟩ := attempts_eq_some hfound
    obtain ⟨after, horder⟩ := hprefix
    obtain ⟨text, htext, rfl⟩ := Option.map_eq_some_iff.mp hpair
    rw [hpairs] at htried horder
    -- the calls before the success are a prefix of the order
    refine ⟨before.map (tryAt config.env), tryAt config.env pair, after.map (tryAt config.env), ?_, ?_,
      ?_, htext, rfl, rfl⟩
    · rw [pairsInOrder, ← horder, List.append_assoc, List.map_append]
      rfl
    · rw [htried, List.map_append]
      rfl
    · intro earlier hearlier
      obtain ⟨pair', hpair', rfl⟩ := List.mem_map.mp hearlier
      exact resultAt_eq_none.mp (hbefore pair' hpair')

end Order

/-- Two keys and two models, with the second of each as the current one. -/
def lastPair : AiConfigService where
  env := { geminiApiKeys := js "k1, k2", geminiModels := js "m1,m2" }
  keyIndex := 1
  modelIndex := 1
  keyStates := []
  keyIndex_lt := by decide
  modelIndex_lt := by decide

/-- `generateContent_fallsBack` for them. -/
theorem lastPair_fallsBack :
    lastPair.getApiKeys = [js "k1", js "k2"] ∧ lastPair.getModels = [js "m1", js "m2"] ∧
      ∃ order, CoversPairs lastPair order ∧ ∀ ask, FallsBack lastPair ask order
        (lastPair.generateContent ask none).1 (lastPair.generateContent ask none).2 :=
  ⟨by decide, by decide, generateContent_fallsBack lastPair (by decide) (by decide)⟩

end ChatSC.Spec
