import ChatSC.Backend.AiCalls
import ChatSC.Spec.AiFallback
import ChatSC.ForStd.Transition
import Mathlib.Data.Finset.Card

/-!
# Which keys the calls of one service ask with

Each call takes as many turns of the keys as there are keys, but it asks with the key that the shared
index stands at, and the other calls move that index too.  So a call can come to a key again and leave
another one out.

A call that still can ask with all keys has at least as many turns left as there are keys that it has
not asked with.  A turn keeps that up exactly when its key is one of these, or when there are turns to
spare (`KeepsUp`); there are turns to spare only where a key is configured twice.
-/

namespace ChatSC.Spec

open Backend JsString Transition

/-! ## What a call has asked with -/

/-- The call has thrown `AI_SERVICE_UNAVAILABLE`. -/
def EndsUnavailable (call : AiCall) : Prop :=
  ∃ exception, call.pc = .threw exception ∧ exception.code = js "AI_SERVICE_UNAVAILABLE"

/-- The call has made an attempt with every key. -/
def TriesAllKeys (config : AiConfigService) (call : AiCall) : Prop :=
  ∀ apiKey ∈ config.getApiKeys, ∃ asked ∈ call.tried, asked.apiKey = apiKey

/-- The keys that a call has not asked with. -/
def untriedKeys (config : AiConfigService) (call : AiCall) : Finset JsString :=
  config.getApiKeys.toFinset \ (call.tried.map (·.apiKey)).toFinset

/-- The turn of the keys, the turn of the models and the attempt that a call stands at. -/
def underWay : AiCallPc → Option (Nat × Nat × AiTry)
  | .asking keyAttempt modelAttempt asked => some (keyAttempt, modelAttempt, asked)
  | .responding keyAttempt modelAttempt asked => some (keyAttempt, modelAttempt, asked)
  | .returned _ => none
  | .threw _ => none

/-- The answer that an event gives, and to which call. -/
def answerOf : AiEvent → Option (Nat × AiAnswer)
  | .call _ => none
  | .resolve _ => none
  | .reject index thrown date => some (index, .failure thrown date)
  | .respond index answer => some (index, answer)

/-- The call at an index, with its turn of the keys, where an event ends that turn: the answer is no
    text, and the model is the last one. -/
def turnEnded (system : AiSystem) (index : Nat) (event : AiEvent) : Option (AiCall × Nat) :=
  match answerOf event, system.calls[index]? with
  | some (i, answer), some call =>
    match underWay call.pc with
    | some (keyAttempt, modelAttempt, _) =>
      if i = index ∧ answer.outcome.toOption = none ∧
          (modelsFor system.config call.model).length ≤ modelAttempt + 1 then
        some (call, keyAttempt)
      else none
    | none => none
  | _, _ => none

/-- The next key is one that the call has not asked with, or the call has turns to spare. -/
def NextKeyCounts (config : AiConfigService) (call : AiCall) (keyAttempt : Nat) : Prop :=
  (∃ apiKey ∈ untriedKeys config call, config.rotateApiKey.getCurrentApiKey = some apiKey) ∨
    (untriedKeys config call).card < config.getApiKeys.length - (keyAttempt + 1)

/-- Where an event takes the call at an index to its next key, that key counts. -/
def KeepsUp (index : Nat) (system : AiSystem) (event : AiEvent) : Prop :=
  ∀ turn ∈ turnEnded system index event, turn.2 + 1 < system.config.getApiKeys.length →
    NextKeyCounts system.config turn.1 turn.2

instance (config : AiConfigService) (call : AiCall) (keyAttempt : Nat) :
    Decidable (NextKeyCounts config call keyAttempt) :=
  inferInstanceAs (Decidable (_ ∨ _))

instance (index : Nat) (system : AiSystem) (event : AiEvent) :
    Decidable (KeepsUp index system event) :=
  inferInstanceAs (Decidable (∀ turn ∈ turnEnded system index event, _ → _))

section Untried

variable {config : AiConfigService} {call next : AiCall} {asked : AiTry}

theorem untriedKeys_eq_empty : untriedKeys config call = ∅ ↔ TriesAllKeys config call := by
  rw [untriedKeys, Finset.sdiff_eq_empty_iff_subset]
  constructor
  · intro hsub apiKey hkey
    exact List.mem_map.mp (List.mem_toFinset.mp (hsub (List.mem_toFinset.mpr hkey)))
  · intro hall apiKey hkey
    exact List.mem_toFinset.mpr (List.mem_map.mpr (hall apiKey (List.mem_toFinset.mp hkey)))

/-- One more attempt takes its key away. -/
theorem untriedKeys_concat (h : next.tried = call.tried ++ [asked]) :
    untriedKeys config next = (untriedKeys config call).erase asked.apiKey := by
  ext apiKey
  simp only [untriedKeys, h, List.map_append, List.map_cons, List.map_nil, Finset.mem_sdiff,
    List.mem_toFinset, List.mem_append, List.mem_singleton, Finset.mem_erase]
  tauto

theorem untriedKeys_congr (h : next.tried = call.tried) :
    untriedKeys config next = untriedKeys config call := by
  rw [untriedKeys, h, untriedKeys]

theorem untriedKeys_env {config' : AiConfigService} (h : config'.env = config.env) :
    untriedKeys config' call = untriedKeys config call := by
  rw [untriedKeys, getApiKeys_congr h, untriedKeys]

theorem modelsFor_congr {config' : AiConfigService} {model : Option JsString}
    (h : config'.env = config.env) : modelsFor config' model = modelsFor config model := by
  simp only [modelsFor, AiConfigService.getModels, h]

end Untried

/-! ## What a call does next -/

section Moves

variable {config : AiConfigService} {call : AiCall} {keyAttempt modelAttempt : Nat} {asked : AiTry}
  {answer : AiAnswer}

/-- What `settle` makes of a service and a call. -/
inductive AfterAnswer (config : AiConfigService) (call : AiCall) (keyAttempt modelAttempt : Nat)
    (asked : AiTry) (answer : AiAnswer) (next : AiCall) : Prop where
  | returned (result : AiResult) (hanswer : answer.outcome.toOption ≠ none)
      (hpc : next.pc = .returned result)
  | nextModel (asked' : AiTry)
      (hmodel : modelAttempt + 1 < (modelsFor config call.model).length)
      (hkey : asked'.apiKey = asked.apiKey) (htried : next.tried = call.tried ++ [asked'])
      (hpc : next.pc = .asking keyAttempt (modelAttempt + 1) asked')
  | nextKey (asked' : AiTry) (hanswer : answer.outcome.toOption = none)
      (hmodel : (modelsFor config call.model).length ≤ modelAttempt + 1)
      (hturn : keyAttempt + 1 < config.getApiKeys.length)
      (hkey : config.rotateApiKey.getCurrentApiKey = some asked'.apiKey)
      (htried : next.tried = call.tried ++ [asked'])
      (hpc : next.pc = .asking (keyAttempt + 1) 0 asked')
  | ended (exception : AiUnavailable) (hanswer : answer.outcome.toOption = none)
      (hturn : config.getApiKeys.length ≤ keyAttempt + 1) (htried : next.tried = call.tried)
      (hpc : next.pc = .threw exception)

variable (config call keyAttempt) in
theorem startModel_spec (modelAttempt keyPosition : Nat) (apiKey modelName : JsString) :
    let after := call.startModel config keyAttempt modelAttempt keyPosition apiKey modelName
    ∃ asked : AiTry, asked.apiKey = apiKey ∧ after.1 = config ∧
      after.2.tried = call.tried ++ [asked] ∧ after.2.pc = .asking keyAttempt modelAttempt asked :=
  ⟨{ keyPosition := keyPosition
     modelPosition := config.modelIndex % config.getModels.length
     apiKey := apiKey
     modelName := modelName }, rfl, rfl, rfl, rfl⟩

variable (call) in
/-- A turn that begins asks with the current key. -/
theorem startKey_spec (hturn : keyAttempt < config.getApiKeys.length) :
    ∃ asked, config.getCurrentApiKey = some asked.apiKey ∧
      (call.startKey config keyAttempt).1 = config ∧
      (call.startKey config keyAttempt).2.tried = call.tried ++ [asked] ∧
      (call.startKey config keyAttempt).2.pc = .asking keyAttempt 0 asked := by
  have hpos : 0 < config.env.keyCount := Nat.zero_lt_of_lt hturn
  have hat : StandsAt config.env config.keyIndex config.modelIndex config := ⟨rfl, rfl, rfl⟩
  have hcurrent := hat.getCurrentApiKey (config.keyIndex_lt (List.length_pos_iff.mp hpos))
  rw [AiCall.startKey, if_pos hturn, hcurrent]
  obtain ⟨asked, hkey, hspec⟩ := startModel_spec config call keyAttempt 0
    (config.keyIndex % config.getApiKeys.length)
    (tryAt config.env (config.keyIndex, config.modelIndex)).apiKey
    (call.model.getD config.getCurrentModel)
  exact ⟨asked, congrArg some hkey.symm, hspec⟩

/-- A service that stands where it stood has the same next key. -/
theorem getCurrentApiKey_rotated {marked : AiConfigService} (hpos : 0 < config.env.keyCount)
    (hmarked : StandsAt config.env config.keyIndex config.modelIndex marked) :
    marked.rotateApiKey.getCurrentApiKey = config.rotateApiKey.getCurrentApiKey := by
  have hplain : StandsAt config.env config.keyIndex config.modelIndex config := ⟨rfl, rfl, rfl⟩
  have hk := Nat.mod_lt (config.keyIndex + 1) hpos
  exact ((hmarked.rotateApiKey hpos).getCurrentApiKey hk).trans
    ((hplain.rotateApiKey hpos).getCurrentApiKey hk).symm

/-- With the last model a failure ends the turn: the next one begins, or the call has thrown. -/
theorem startKey_rotated {marked : AiConfigService}
    (hmarked : StandsAt config.env config.keyIndex config.modelIndex marked)
    (hfailed : answer.outcome.toOption = none)
    (hlast : (modelsFor config call.model).length ≤ modelAttempt + 1) (thrown : Thrown) :
    let next := AiCall.startKey marked.rotateApiKey { call with lastError := some thrown }
      (keyAttempt + 1)
    next.1.env = config.env ∧
      AfterAnswer config call keyAttempt modelAttempt asked answer next.2 := by
  have henv : marked.rotateApiKey.env = config.env :=
    (env_rotateApiKey marked).trans hmarked.env_eq
  have hcount := getApiKeys_congr henv
  by_cases hturn : keyAttempt + 1 < config.getApiKeys.length
  · -- the key of the next turn is the one after the shared index
    obtain ⟨asked', hkey, hconfig, htried, hpc⟩ :=
      startKey_spec { call with lastError := some thrown } (hcount.symm ▸ hturn)
    have hsame := getCurrentApiKey_rotated (Nat.zero_lt_of_lt hturn) hmarked
    exact ⟨(congrArg AiConfigService.env hconfig).trans henv,
      .nextKey asked' hfailed hlast hturn (hsame.symm.trans hkey) htried hpc⟩
  · rw [AiCall.startKey, hcount, if_neg hturn]
    -- that was the last turn
    exact ⟨henv, .ended _ hfailed (Nat.le_of_not_lt hturn) rfl rfl⟩

variable (config call keyAttempt modelAttempt asked answer) in
theorem settle_spec :
    (call.settle config keyAttempt modelAttempt asked answer).1.env = config.env ∧
      AfterAnswer config call keyAttempt modelAttempt asked answer
        (call.settle config keyAttempt modelAttempt asked answer).2 := by
  -- marking a key leaves the service where it stands
  have hat : StandsAt config.env config.keyIndex config.modelIndex
      (answer.mark config asked.apiKey) := by
    cases answer with
    | response text date => exact StandsAt.markKeySuccess ⟨rfl, rfl, rfl⟩ _
    | failure thrown date => exact ⟨rfl, rfl, rfl⟩
  simp only [AiCall.settle]
  generalize answer.mark config asked.apiKey = marked at hat ⊢
  cases houtcome : answer.outcome with
  | ok text =>
    exact ⟨hat.env_eq, .returned _ (by simp [houtcome, Except.toOption]) rfl⟩
  | error failure =>
    obtain ⟨thrown, date⟩ := failure
    have hfailed : answer.outcome.toOption = none := by rw [houtcome]; rfl
    have hmarked := hat.markKeyFailure asked.apiKey (isRateLimitMessage thrown.errorMessage) date
    dsimp only
    generalize marked.markKeyFailure asked.apiKey (isRateLimitMessage thrown.errorMessage) date =
      marked at hmarked ⊢
    simp only [modelsFor_congr hmarked.env_eq]
    by_cases hmodel : modelAttempt + 1 < (modelsFor config call.model).length
    · rw [if_pos hmodel]
      obtain ⟨asked', hkey, hconfig, htried, hpc⟩ :=
        startModel_spec marked.rotateModel { call with lastError := some thrown } keyAttempt
          (modelAttempt + 1) asked.keyPosition asked.apiKey marked.rotateModel.getCurrentModel
      have henv := (env_rotateModel marked).trans hmarked.env_eq
      exact ⟨(congrArg AiConfigService.env hconfig).trans henv,
        .nextModel asked' hmodel hkey htried hpc⟩
    · rw [if_neg hmodel]
      exact startKey_rotated hmarked hfailed (Nat.le_of_not_lt hmodel) thrown

/-- What an event can do. -/
inductive AiMove (system : AiSystem) : AiEvent → AiSystem → Prop where
  | called (model : Option JsString) : AiMove system (.call model)
      ⟨(system.config.startCall model).1, system.calls ++ [(system.config.startCall model).2]⟩
  | awaited (i : Nat) (call : AiCall) (keyAttempt modelAttempt : Nat) (asked : AiTry)
      (hcall : system.calls[i]? = some call) (hpc : call.pc = .asking keyAttempt modelAttempt asked) :
      AiMove system (.resolve i) (system.put i
        (system.config, { call with pc := .responding keyAttempt modelAttempt asked }))
  | answered (event : AiEvent) (i : Nat) (answer : AiAnswer) (call : AiCall)
      (keyAttempt modelAttempt : Nat) (asked : AiTry) (hanswer : answerOf event = some (i, answer))
      (hcall : system.calls[i]? = some call)
      (hpc : underWay call.pc = some (keyAttempt, modelAttempt, asked)) :
      AiMove system event
        (system.put i (call.settle system.config keyAttempt modelAttempt asked answer))

theorem aiStep_move {system system' : AiSystem} {event : AiEvent}
    (h : aiStep system event = some system') : AiMove system event system' := by
  cases event with
  | call model =>
    cases h
    exact .called model
  | resolve i =>
    -- only a call that waits for the model goes on
    simp only [aiStep] at h
    split at h
    · next call hcall =>
      split at h
      · next keyAttempt modelAttempt asked hpc =>
        cases h
        exact .awaited i call keyAttempt modelAttempt asked hcall hpc
      · cases h
    · cases h
  | reject i thrown date =>
    simp only [aiStep] at h
    split at h
    · next call hcall =>
      split at h
      · next keyAttempt modelAttempt asked hpc =>
        cases h
        refine .answered _ i (.failure thrown date) call keyAttempt modelAttempt asked rfl hcall ?_
        rw [hpc, underWay]
      · cases h
    · cases h
  | respond i answer =>
    simp only [aiStep] at h
    split at h
    · next call hcall =>
      split at h
      · next keyAttempt modelAttempt asked hpc =>
        cases h
        refine .answered _ i answer call keyAttempt modelAttempt asked rfl hcall ?_
        rw [hpc, underWay]
      · cases h
    · cases h

end Moves

/-! ## Turns and keys -/

/-- The turns that a call has left, while it matters for `AI_SERVICE_UNAVAILABLE`. -/
def turnsLeft (config : AiConfigService) (call : AiCall) : Option Nat :=
  match call.pc with
  | .asking keyAttempt _ _ => some (config.getApiKeys.length - (keyAttempt + 1))
  | .responding keyAttempt _ _ => some (config.getApiKeys.length - (keyAttempt + 1))
  | .returned _ => none
  | .threw exception => if exception.code = js "AI_SERVICE_UNAVAILABLE" then some 0 else none

/-- A call of a run whose events so far are `kept`. -/
structure CallOfRun (config : AiConfigService) (kept : Prop) (call : AiCall) : Prop where
  /-- the attempt under way is of this turn, and made -/
  asked : ∀ keyAttempt modelAttempt asked,
    underWay call.pc = some (keyAttempt, modelAttempt, asked) →
      keyAttempt < config.getApiKeys.length ∧ asked.apiKey ∉ untriedKeys config call
  enough : ∀ turns, turnsLeft config call = some turns →
    ((untriedKeys config call).card ≤ turns ↔ kept)

section Turns

variable {config : AiConfigService} {call next : AiCall} {kept : Prop}
  {keyAttempt modelAttempt : Nat} {asked : AiTry} {answer : AiAnswer}

variable (config) in
theorem turnsLeft_of_underWay (h : underWay call.pc = some (keyAttempt, modelAttempt, asked)) :
    turnsLeft config call = some (config.getApiKeys.length - (keyAttempt + 1)) := by
  cases hpc : call.pc with
  | asking k m a =>
    rw [hpc] at h
    cases h
    rw [turnsLeft, hpc]
  | responding k m a =>
    rw [hpc] at h
    cases h
    rw [turnsLeft, hpc]
  | returned result => rw [hpc] at h; cases h
  | threw exception => rw [hpc] at h; cases h

theorem turnsLeft_of_threw {exception : AiUnavailable} {turns : Nat}
    (hpc : call.pc = .threw exception) (h : turnsLeft config call = some turns) : turns = 0 := by
  rw [turnsLeft, hpc] at h
  simp only [Option.ite_none_right_eq_some, Option.some.injEq] at h
  exact h.2.symm

/-- A call that stands at an attempt just made. -/
theorem CallOfRun.of_asking (hpc : next.pc = .asking keyAttempt modelAttempt asked)
    (htried : next.tried = call.tried ++ [asked]) (hturn : keyAttempt < config.getApiKeys.length)
    (henough : ((untriedKeys config call).erase asked.apiKey).card ≤
      config.getApiKeys.length - (keyAttempt + 1) ↔ kept) : CallOfRun config kept next := by
  -- the turn is used up with its key: one key less to try, one turn less to try it in
  rw [← untriedKeys_concat htried] at henough
  refine ⟨?_, ?_⟩
  · intro k m a h
    rw [hpc] at h
    cases h
    refine ⟨hturn, ?_⟩
    rw [untriedKeys_concat htried]
    exact Finset.notMem_erase _ _
  · intro turns h
    rw [turnsLeft, hpc] at h
    cases h
    exact henough

theorem mem_of_getCurrentApiKey {apiKey : JsString} (h : config.getCurrentApiKey = some apiKey) :
    apiKey ∈ config.getApiKeys := by
  rw [AiConfigService.getCurrentApiKey] at h
  split at h
  · cases h
  · exact List.mem_of_getElem? h

/-- The key of a new turn leaves enough turns exactly when there were enough and it counts. -/
theorem enough_iff {untried : Finset JsString} {apiKey : JsString} {turns : Nat} (h : 0 < turns) :
    (untried.erase apiKey).card ≤ turns - 1 ↔
      untried.card ≤ turns ∧ (apiKey ∈ untried ∨ untried.card < turns) := by
  by_cases hkey : apiKey ∈ untried
  · rw [Finset.card_erase_of_mem hkey]
    have hpos := Finset.card_pos.mpr ⟨apiKey, hkey⟩
    simp only [hkey, true_or, and_true]
    omega
  · rw [Finset.erase_eq_of_notMem hkey]
    simp only [hkey, false_or]
    omega

/-- A call up to its first attempt. -/
theorem CallOfRun.start (config : AiConfigService) (model : Option JsString) (hkept : kept) :
    (config.startCall model).1 = config ∧ CallOfRun config kept (config.startCall model).2 := by
  unfold AiConfigService.startCall
  split
  · refine ⟨rfl, nofun, fun turns h => ?_⟩
    cases h
  · next hkeys =>
    split
    · refine ⟨rfl, nofun, fun turns h => ?_⟩
      cases h
    · obtain ⟨asked, hkey, hconfig, htried, hpc⟩ := startKey_spec
        { model := model, tried := [], lastError := none, pc := .threw (.ofLastError none) }
        (Nat.pos_of_ne_zero hkeys)
      refine ⟨hconfig, .of_asking hpc htried (Nat.pos_of_ne_zero hkeys) (iff_of_true ?_ hkept)⟩
      -- the keys but the first are at most as many as the turns but the first
      rw [Finset.card_erase_of_mem (by simpa [untriedKeys] using mem_of_getCurrentApiKey hkey)]
      refine Nat.sub_le_sub_right ?_ 1
      exact (Finset.card_le_card Finset.sdiff_subset).trans (List.toFinset_card_le _)

theorem CallOfRun.await (h : CallOfRun config kept call)
    (hpc : call.pc = .asking keyAttempt modelAttempt asked) :
    CallOfRun config kept { call with pc := .responding keyAttempt modelAttempt asked } := by
  have hunderWay : underWay call.pc = some (keyAttempt, modelAttempt, asked) := by
    rw [hpc, underWay]
  have hturns := turnsLeft_of_underWay config hunderWay
  refine ⟨fun k m a hk => ?_, fun turns hturn => ?_⟩
  · cases hk
    exact h.asked _ _ _ hunderWay
  · cases hturn
    exact h.enough _ hturns

/-- An answer keeps the turns enough exactly when the next key, if there is one, counts. -/
theorem CallOfRun.settle (h : CallOfRun config kept call)
    (hpc : underWay call.pc = some (keyAttempt, modelAttempt, asked))
    (hnext : AfterAnswer config call keyAttempt modelAttempt asked answer next) :
    CallOfRun config (kept ∧ (answer.outcome.toOption = none →
      (modelsFor config call.model).length ≤ modelAttempt + 1 →
        keyAttempt + 1 < config.getApiKeys.length → NextKeyCounts config call keyAttempt)) next := by
  obtain ⟨hturn, hasked⟩ := h.asked _ _ _ hpc
  have henough := h.enough _ (turnsLeft_of_underWay config hpc)
  cases hnext with
  | returned result hanswer hpc' =>
    refine ⟨fun k m a h => ?_, fun turns h => ?_⟩
    · rw [hpc'] at h
      cases h
    · rw [turnsLeft, hpc'] at h
      cases h
  | nextModel asked' hmodel hkey htried hpc' =>
    -- the key is the one of the turn
    refine .of_asking hpc' htried hturn ?_
    rw [hkey, Finset.erase_eq_of_notMem hasked, henough]
    exact (and_iff_left fun _ hlast => absurd hmodel (Nat.not_lt_of_le hlast)).symm
  | nextKey asked' hanswer hmodel hturn' hkey htried hpc' =>
    refine .of_asking hpc' htried hturn' ?_
    rw [Nat.sub_add_eq, enough_iff (Nat.sub_pos_of_lt hturn'), henough, NextKeyCounts, hkey]
    simp only [Option.some.injEq, exists_eq_right', hanswer, hmodel, hturn', forall_const]
  | ended exception hanswer hturn' htried hpc' =>
    refine ⟨fun k m a h => ?_, fun turns h => ?_⟩
    · rw [hpc'] at h
      cases h
    · -- all turns are over
      obtain rfl := turnsLeft_of_threw hpc' h
      rw [Nat.sub_eq_zero_of_le hturn'] at henough
      rw [untriedKeys_congr htried, henough]
      exact (and_iff_left fun _ _ hlt => absurd hlt (Nat.not_lt_of_le hturn')).symm

theorem CallOfRun.of_env {config' : AiConfigService} (henv : config'.env = config.env)
    (h : CallOfRun config kept call) : CallOfRun config' kept call := by
  have hkeys := getApiKeys_congr henv
  have hturns : turnsLeft config' call = turnsLeft config call := by
    rw [turnsLeft, hkeys, turnsLeft]
  refine ⟨?_, ?_⟩
  · rw [hkeys, untriedKeys_env henv]
    exact h.asked
  · rw [hturns, untriedKeys_env henv]
    exact h.enough

end Turns

/-! ## Runs -/

section Runs

variable {config : AiConfigService} {index : Nat} {events : List AiEvent} {system system' : AiSystem}
  {event : AiEvent} {call : AiCall}

/-- What is known of the call at an index after the events of a run. -/
structure OfRun (config : AiConfigService) (index : Nat) (events : List AiEvent)
    (system : AiSystem) : Prop where
  env : system.config.env = config.env
  absent : system.calls[index]? = none →
    Guarded aiStep (KeepsUp index) ⟨config, []⟩ events
  present : ∀ call, system.calls[index]? = some call →
    CallOfRun system.config (Guarded aiStep (KeepsUp index) ⟨config, []⟩ events) call

theorem OfRun.nil : OfRun config index [] ⟨config, []⟩ :=
  ⟨rfl, fun _ => trivial, fun call h => by cases h⟩

/-- A call that an event does not touch. -/
theorem OfRun.of_same (h : OfRun config index events system)
    (henv : system'.config.env = system.config.env)
    (hsame : system'.calls[index]? = system.calls[index]?)
    (hkept : Guarded aiStep (KeepsUp index) ⟨config, []⟩ (events ++ [event]) ↔
      Guarded aiStep (KeepsUp index) ⟨config, []⟩ events) :
    OfRun config index (events ++ [event]) system' := by
  refine ⟨henv.trans h.env, ?_, ?_⟩
  · rw [hsame, hkept]
    exact h.absent
  · rw [hsame, hkept]
    exact fun call hcall => (h.present call hcall).of_env henv

/-- An event that gives no answer to a call meets its condition. -/
theorem keepsUp_of_answer (h : ∀ answer, answerOf event ≠ some (index, answer)) :
    KeepsUp index system event := by
  intro turn hturn
  simp only [turnEnded] at hturn
  split at hturn
  -- the condition is about the answers to the call at the index only
  · next i answer call hanswer hcall =>
    split at hturn
    · split at hturn
      · next hended =>
        obtain ⟨rfl, -⟩ := hended
        exact absurd hanswer (h answer)
      · cases hturn
    · cases hturn
  · cases hturn

/-- The condition of an event that gives an answer to a call. -/
theorem keepsUp_iff {answer : AiAnswer} {keyAttempt modelAttempt : Nat} {asked : AiTry}
    (hanswer : answerOf event = some (index, answer)) (hcall : system.calls[index]? = some call)
    (hpc : underWay call.pc = some (keyAttempt, modelAttempt, asked)) :
    KeepsUp index system event ↔ (answer.outcome.toOption = none →
      (modelsFor system.config call.model).length ≤ modelAttempt + 1 →
        keyAttempt + 1 < system.config.getApiKeys.length →
          NextKeyCounts system.config call keyAttempt) := by
  simp only [KeepsUp, turnEnded, hanswer, hcall, hpc, true_and]
  split
  · next h => simp [h.1, h.2]
  · next h =>
    refine iff_of_true nofun fun hfailed hlast => ?_
    exact absurd ⟨hfailed, hlast⟩ h

/-- The call that an event touches. -/
theorem OfRun.put_self {after : AiConfigService × AiCall} (h : OfRun config index events system)
    (hcall : system.calls[index]? = some call) (henv : after.1.env = system.config.env)
    (hnext : CallOfRun after.1
      (Guarded aiStep (KeepsUp index) ⟨config, []⟩ (events ++ [event])) after.2) :
    OfRun config index (events ++ [event]) (system.put index after) := by
  have hlt := (List.getElem?_eq_some_iff.mp hcall).1
  refine ⟨henv.trans h.env, fun hnone => ?_, fun call' hcall' => ?_⟩
  · simp [AiSystem.put, hlt] at hnone
  · rw [AiSystem.put, List.getElem?_set_self hlt] at hcall'
    cases hcall'
    exact hnext

/-- A call starts; it may be the one at the index. -/
theorem OfRun.called (h : OfRun config index events system) (model : Option JsString)
    (hkept : Guarded aiStep (KeepsUp index) ⟨config, []⟩ (events ++ [.call model]) ↔
      Guarded aiStep (KeepsUp index) ⟨config, []⟩ events) :
    OfRun config index (events ++ [.call model])
      ⟨(system.config.startCall model).1,
        system.calls ++ [(system.config.startCall model).2]⟩ := by
  have henv : (system.config.startCall model).1.env = system.config.env :=
    congrArg _ (CallOfRun.start system.config model trivial).1
  -- the new call is behind the one at the index, it is this one, or that one is still to come
  rcases Nat.lt_trichotomy index system.calls.length with hlt | rfl | hgt
  · exact h.of_same henv (List.getElem?_append_left hlt) hkept
  · -- there was no call at the index, so the condition has been met so far
    obtain ⟨-, hstart⟩ := CallOfRun.start system.config model
      (hkept.mpr (h.absent (List.getElem?_eq_none (Nat.le_refl _))))
    refine ⟨henv.trans h.env, fun hnone => ?_, fun call hcall => ?_⟩
    · simp at hnone
    · simp only [List.getElem?_concat_length, Option.some.injEq] at hcall
      subst hcall
      exact hstart.of_env henv
  · refine h.of_same henv ?_ hkept
    rw [List.getElem?_eq_none, List.getElem?_eq_none]
    · exact Nat.le_of_lt hgt
    · rw [List.length_append]
      exact hgt

theorem OfRun.step (hrun : run aiStep ⟨config, []⟩ events = some system)
    (h : OfRun config index events system) (hstep : aiStep system event = some system') :
    OfRun config index (events ++ [event]) system' := by
  have hkept : Guarded aiStep (KeepsUp index) ⟨config, []⟩ (events ++ [event]) ↔
      Guarded aiStep (KeepsUp index) ⟨config, []⟩ events ∧ KeepsUp index system event :=
    guarded_concat_iff hrun
  cases aiStep_move hstep with
  -- a call that starts takes no turn from another
  | called model =>
    have hok : KeepsUp index system (.call model) := keepsUp_of_answer nofun
    rw [and_iff_left hok] at hkept
    exact h.called model hkept
  -- nor does one that sends its request
  | awaited i call keyAttempt modelAttempt asked hcall hpc =>
    have hok : KeepsUp index system (.resolve i) := keepsUp_of_answer nofun
    rw [and_iff_left hok] at hkept
    by_cases hindex : i = index
    · subst hindex
      refine h.put_self hcall rfl ?_
      rw [hkept]
      exact (h.present call hcall).await hpc
    · exact h.of_same rfl (List.getElem?_set_ne hindex) hkept
  | answered _ i answer call keyAttempt modelAttempt asked hanswer hcall hpc =>
    obtain ⟨henv, hnext⟩ :=
      settle_spec system.config call keyAttempt modelAttempt asked answer
    by_cases hindex : i = index
    · -- the only event with a condition
      subst hindex
      rw [keepsUp_iff hanswer hcall hpc] at hkept
      refine h.put_self hcall henv ?_
      rw [hkept]
      exact ((h.present call hcall).settle hpc hnext).of_env henv
    · refine h.of_same henv (List.getElem?_set_ne hindex) ?_
      rw [and_iff_left (keepsUp_of_answer fun answer' h' => ?_)] at hkept
      · exact hkept
      · rw [hanswer] at h'
        cases h'
        exact hindex rfl

theorem ofRun (index : Nat) (hrun : run aiStep ⟨config, []⟩ events = some system) :
    OfRun config index events system := by
  refine run_invariant_history ?_ .nil hrun
  exact fun es s e s' hes h hstep => OfRun.step hes h hstep

/-- **A call that ends in `AI_SERVICE_UNAVAILABLE` has tried all keys, exactly when every next key of
    its own counts**: it is one that the call has not tried, or the call has turns to spare. -/
theorem unavailable_triesAllKeys_iff (hrun : run aiStep ⟨config, []⟩ events = some system)
    (hcall : system.calls[index]? = some call) (hended : EndsUnavailable call) :
    TriesAllKeys config call ↔ Guarded aiStep (KeepsUp index) ⟨config, []⟩ events := by
  have h := ofRun index hrun
  obtain ⟨exception, hpc, hcode⟩ := hended
  have hturns : turnsLeft system.config call = some 0 := by
    -- a call that has thrown this has no turn left, so it kept up exactly when no key is left
    rw [turnsLeft, hpc]
    exact if_pos hcode
  rw [← (h.present call hcall).enough 0 hturns, Nat.le_zero, Finset.card_eq_zero,
    untriedKeys_env h.env, untriedKeys_eq_empty]

end Runs

/-! ## Two calls and two keys -/

/-- Two keys and one model. -/
def twoKeys : AiConfigService :=
  .create { geminiApiKeys := js "k1,k2", geminiModels := js "m" }

/-- What a limited key answers. -/
def limited : Thrown := .error (js "429")

/-- Two calls start, and each attempt fails: the second failure turns the keys back to the first. -/
def overlapping : List AiEvent :=
  [.call none, .call none, .reject 0 limited 0, .reject 1 limited 0, .reject 1 limited 0]

/-- A call alone, whose attempts fail. -/
def failingAlone : List AiEvent := [.call none, .reject 0 limited 0, .reject 0 limited 0]

/-- `unavailable_triesAllKeys_iff` for it. -/
theorem failingAlone_triesAllKeys : ∃ system call,
    run aiStep ⟨twoKeys, []⟩ failingAlone = some system ∧
    system.calls[0]? = some call ∧ EndsUnavailable call ∧ TriesAllKeys twoKeys call := by
  let final := (run aiStep ⟨twoKeys, []⟩ failingAlone).get (by decide)
  let call := final.calls.get ⟨0, by decide⟩
  have hrun : run aiStep ⟨twoKeys, []⟩ failingAlone = some final := (Option.some_get _).symm
  have hended : EndsUnavailable call := ⟨_, rfl, by decide⟩
  have hcall : final.calls[0]? = some call := by decide
  exact ⟨final, call, hrun, hcall, hended,
    (unavailable_triesAllKeys_iff hrun hcall hended).mpr (by decide)⟩

/-- The second call is over without the second key. -/
theorem overlapping_starves : ¬ ∀ (config : AiConfigService) (events : List AiEvent)
    (system : AiSystem), run aiStep ⟨config, []⟩ events = some system →
      ∀ call ∈ system.calls, EndsUnavailable call → TriesAllKeys config call := by
  intro h
  let final := (run aiStep ⟨twoKeys, []⟩ overlapping).get (by decide)
  have htries := h twoKeys overlapping final (Option.some_get _).symm (final.calls.get ⟨1, by decide⟩)
    (List.get_mem _ _) ⟨_, rfl, by decide⟩ (js "k2") (by decide)
  revert htries
  decide

/-! ## A call alone -/

section Alone

variable {ask : AiTry → AiAnswer} {index : Nat} {system system' system'' : AiSystem}
  {run : AiRun} {calls : List AiCall} {model : Option JsString} {keyAttempt modelAttempt : Nat}

/-- An event that gives the attempt of the call at an index the answer to it. -/
def AnswersWith (ask : AiTry → AiAnswer) (index : Nat) (system : AiSystem) (event : AiEvent) : Prop :=
  ∀ answer call keyAttempt modelAttempt asked, answerOf event = some (index, answer) →
    system.calls[index]? = some call →
      underWay call.pc = some (keyAttempt, modelAttempt, asked) → answer = ask asked

/-- There are events that lead from a system to another one and give those answers. -/
def Reaches (ask : AiTry → AiAnswer) (index : Nat) (system system' : AiSystem) : Prop :=
  ∃ events, Transition.run aiStep system events = some system' ∧
    Guarded aiStep (AnswersWith ask index) system events

theorem Reaches.refl (system : AiSystem) : Reaches ask index system system := ⟨[], rfl, trivial⟩

theorem Reaches.trans (h : Reaches ask index system system')
    (h' : Reaches ask index system' system'') :
    Reaches ask index system system'' := by
  obtain ⟨events, hrun, hanswers⟩ := h
  obtain ⟨events', hrun', hanswers'⟩ := h'
  exact ⟨events ++ events', run_append_eq_some.mpr ⟨system', hrun, hrun'⟩,
    hanswers.append hrun hanswers'⟩

theorem startKey_pc (call : AiCall) (config : AiConfigService) (pc : AiCallPc) :
    AiCall.startKey config { call with pc := pc } keyAttempt =
      AiCall.startKey config call keyAttempt := by
  unfold AiCall.startKey
  split <;> rfl

/-- Where the call stood is not read. -/
theorem settle_pc (call : AiCall) (config : AiConfigService) (pc : AiCallPc) (asked : AiTry)
    (answer : AiAnswer) :
    AiCall.settle config { call with pc := pc } keyAttempt modelAttempt asked answer =
      call.settle config keyAttempt modelAttempt asked answer := by
  simp only [AiCall.settle]
  cases answer.outcome with
  | ok text => rfl
  | error failure =>
    dsimp only
    split
    · rfl
    · exact startKey_pc { call with lastError := some failure.1 } _ pc

/-- A call at an attempt goes on with the answer to it. -/
theorem reaches_settle {call : AiCall} {asked : AiTry} (hcall : system.calls[index]? = some call)
    (hpc : call.pc = .asking keyAttempt modelAttempt asked) :
    Reaches ask index system
      (system.put index (call.settle system.config keyAttempt modelAttempt asked (ask asked))) := by
  have hlt := (List.getElem?_eq_some_iff.mp hcall).1
  cases hask : ask asked with
  | failure thrown date =>
    -- a failure comes with the first await
    refine ⟨[.reject index thrown date], ?_, ?_, fun _ _ => trivial⟩
    · simp only [Transition.run, aiStep, hcall, hpc]
    · rintro answer call' k m asked' hanswer hcall' hpc'
      cases hanswer
      cases hcall.symm.trans hcall'
      rw [hpc] at hpc'
      cases hpc'
      exact hask.symm
  | response text date =>
    -- the response comes with two awaits
    let waiting : AiCall := { call with pc := .responding keyAttempt modelAttempt asked }
    have hwaiting : (system.calls.set index waiting)[index]? = some waiting :=
      List.getElem?_set_self hlt
    have hfirst : aiStep system (.resolve index) =
        some (system.put index (system.config, waiting)) := by
      simp only [aiStep, hcall, hpc, waiting]
    have hsecond : aiStep (system.put index (system.config, waiting))
        (.respond index (.response text date)) = some (system.put index
          (call.settle system.config keyAttempt modelAttempt asked (.response text date))) := by
      simp only [aiStep, AiSystem.put, hwaiting, waiting, List.set_set]
      rw [settle_pc call]
    have hsilent : AnswersWith ask index system (.resolve index) := by
      rintro answer call' k m asked' hanswer
      cases hanswer
    refine ⟨[.resolve index, .respond index (.response text date)], ?_, .cons hsilent hfirst ?_⟩
    · exact run_cons_eq_some.mpr ⟨_, hfirst, run_cons_eq_some.mpr ⟨_, hsecond, rfl⟩⟩
    · refine ⟨?_, fun _ _ => trivial⟩
      rintro answer call' k m asked' hanswer hcall' hpc'
      cases hanswer
      cases hwaiting.symm.trans hcall'
      cases hpc'
      exact hask.symm

/-- The call with what a run of `generateContent` has done. -/
def callOf (model : Option JsString) (run : AiRun) (pc : AiCallPc) : AiCall where
  model := model
  tried := run.tried
  lastError := run.lastError
  pc := pc

/-- The service and the call after the loop over the models. -/
def afterModels (model : Option JsString) (keyAttempt : Nat) (pc : AiCallPc) :
    AiRun × Option AiResult → AiConfigService × AiCall
  | (run, some result) => (run.config, callOf model run (.returned result))
  | (run, none) => AiCall.startKey run.config.rotateApiKey (callOf model run pc) (keyAttempt + 1)

/-- The service and the call after an attempt. -/
def afterAttempt (model : Option JsString) (keyAttempt modelAttempt keyPosition : Nat)
    (apiKey : JsString) (pc : AiCallPc) : AiRun × Option AiResult → AiConfigService × AiCall
  | (run, some result) => afterModels model keyAttempt pc (run, some result)
  | (run, none) =>
    if modelAttempt + 1 < (modelsFor run.config model).length then
      AiCall.startModel run.config.rotateModel (callOf model run pc) keyAttempt (modelAttempt + 1)
        keyPosition apiKey run.config.rotateModel.getCurrentModel
    else afterModels model keyAttempt pc (run, none)

/-- The service and the call after the loop over the keys. -/
def afterKeys (model : Option JsString) : AiRun × Option AiResult → AiConfigService × AiCall
  | (run, some result) => (run.config, callOf model run (.returned result))
  | (run, none) => (run.config, callOf model run (.threw (.ofLastError run.lastError)))

/-- The attempt that a run makes next. -/
def nextTry (run : AiRun) (apiKey modelName : JsString) : AiTry where
  keyPosition := run.config.keyIndex % run.config.getApiKeys.length
  modelPosition := run.config.modelIndex % run.config.getModels.length
  apiKey := apiKey
  modelName := modelName

theorem attempt_eq (apiKey modelName : JsString) :
    run.attempt ask apiKey modelName =
      let asked := nextTry run apiKey modelName
      let config := (ask asked).mark run.config apiKey
      match (ask asked).outcome with
      | .ok text => ({ run with config := config, tried := run.tried ++ [asked] },
          some { text := text, model := modelName, apiKey := apiKey })
      | .error (thrown, date) =>
        ({ config := config.markKeyFailure apiKey (isRateLimitMessage thrown.errorMessage) date
           tried := run.tried ++ [asked]
           lastError := some thrown }, none) := rfl

/-- The answer to an attempt does to a call what it does to a run. -/
theorem settle_attempt (apiKey modelName : JsString) (pc : AiCallPc) :
    let asked := nextTry run apiKey modelName
    AiCall.settle run.config (callOf model { run with tried := run.tried ++ [asked] } pc) keyAttempt
        modelAttempt asked (ask asked) =
      afterAttempt model keyAttempt modelAttempt asked.keyPosition apiKey pc
        (run.attempt ask apiKey modelName) := by
  simp only [attempt_eq, AiCall.settle]
  cases (ask (nextTry run apiKey modelName)).outcome with
  | ok text => rfl
  | error failure => rfl

/-- A run with the service as the loop over the models reads it. -/
def readRun (modelAttempt : Nat) (run : AiRun) : AiRun :=
  { run with config := readState modelAttempt run.config }

/-- The model that the loop over the models reads. -/
def readModel (model : Option JsString) (modelAttempt : Nat) (run : AiRun) : JsString :=
  if modelAttempt = 0 then model.getD (readRun modelAttempt run).config.getCurrentModel
  else (readRun modelAttempt run).config.getCurrentModel

theorem modelLoop_readRun (apiKey : JsString) (modelAttempts : List Nat) :
    AiRun.modelLoop ask model apiKey (modelAttempt :: modelAttempts) run =
      match (readRun modelAttempt run).attempt ask apiKey (readModel model modelAttempt run) with
      | (after, some result) => (after, some result)
      | (after, none) => AiRun.modelLoop ask model apiKey modelAttempts after := rfl

/-- A call that stands at an attempt of a turn comes to what the attempt of the run makes of it. -/
theorem reaches_attempt (hindex : index < calls.length) (apiKey modelName : JsString)
    (pc : AiCallPc) :
    let start := AiCall.startModel run.config (callOf model run pc) keyAttempt modelAttempt
      (run.config.keyIndex % run.config.getApiKeys.length) apiKey modelName
    let next := afterAttempt model keyAttempt modelAttempt
      (run.config.keyIndex % run.config.getApiKeys.length) apiKey pc
      (run.attempt ask apiKey modelName)
    Reaches ask index ⟨start.1, calls.set index start.2⟩ ⟨next.1, calls.set index next.2⟩ := by
  intro start next
  -- where the call stood before its attempt is forgotten
  have hsettle : Reaches ask index ⟨start.1, calls.set index start.2⟩ _ :=
    reaches_settle (List.getElem?_set_self hindex) rfl
  rw [AiSystem.put, List.set_set] at hsettle
  have hnext : next = AiCall.settle run.config start.2 keyAttempt modelAttempt
      (nextTry run apiKey modelName) (ask (nextTry run apiKey modelName)) :=
    (settle_attempt apiKey modelName pc).symm.trans (settle_pc _ _ _ _ _).symm
  rw [hnext]
  exact hsettle

section Turn

variable {env : GeminiEnv} {k : Nat}

variable (ask) in
/-- The service stays at its key while a model is read and asked. -/
theorem attempt_readRun (henv : run.config.env = env) (hkey : run.config.keyIndex = k)
    (apiKey modelName : JsString) :
    (readRun modelAttempt run).config.keyIndex %
        (readRun modelAttempt run).config.getApiKeys.length = k % env.keyCount ∧
      ((readRun modelAttempt run).attempt ask apiKey modelName).1.config.env = env ∧
      ((readRun modelAttempt run).attempt ask apiKey modelName).1.config.keyIndex = k := by
  have hread : (readRun modelAttempt run).config.env = env ∧
      (readRun modelAttempt run).config.keyIndex = k := by
    rw [← henv, ← hkey]
    simp only [readRun, readState, AiConfigService.rotateModel]
    split
    -- turning the models moves the other index
    · exact ⟨rfl, rfl⟩
    · split <;> exact ⟨rfl, rfl⟩
  obtain ⟨hreadEnv, hreadKey⟩ := hread
  obtain ⟨-, -, hstands⟩ := attempt_spec ask ⟨hreadEnv, hreadKey, rfl⟩ apiKey modelName
  refine ⟨?_, hstands.env_eq, hstands.keyIndex_eq⟩
  rw [hreadKey, AiConfigService.getApiKeys, hreadEnv]

/-- An attempt of a turn: the call does what the loop over the models does, if it does so behind an
    attempt that fails. -/
theorem reaches_attemptOf (hindex : index < calls.length) (apiKey : JsString) (pc : AiCallPc)
    (modelAttempts : List Nat) (henv : run.config.env = env) (hkey : run.config.keyIndex = k)
    (hrest : ∀ after : AiRun, after.config.env = env → after.config.keyIndex = k →
      let failed := afterAttempt model keyAttempt modelAttempt (k % env.keyCount) apiKey pc
        (after, none)
      let last := afterModels model keyAttempt pc
        (AiRun.modelLoop ask model apiKey modelAttempts after)
      Reaches ask index ⟨failed.1, calls.set index failed.2⟩ ⟨last.1, calls.set index last.2⟩) :
    let start := AiCall.startModel (readRun modelAttempt run).config (callOf model run pc) keyAttempt
      modelAttempt (k % env.keyCount) apiKey (readModel model modelAttempt run)
    let last := afterModels model keyAttempt pc
      (AiRun.modelLoop ask model apiKey (modelAttempt :: modelAttempts) run)
    Reaches ask index ⟨start.1, calls.set index start.2⟩ ⟨last.1, calls.set index last.2⟩ := by
  obtain ⟨hposition, hafterEnv, hafterKey⟩ :=
    attempt_readRun ask henv hkey apiKey (readModel model modelAttempt run)
  have hattempt := @reaches_attempt ask index (readRun modelAttempt run) calls model keyAttempt
    modelAttempt hindex apiKey (readModel model modelAttempt run) pc
  rw [modelLoop_readRun]
  rw [hposition] at hattempt
  generalize (readRun modelAttempt run).attempt ask apiKey (readModel model modelAttempt run) =
    attempt at *
  obtain ⟨after, result⟩ := attempt
  cases result with
  | some result => exact hattempt
  -- an answer ends the loop and the call, a failure leaves the rest of the loop
  | none => exact hattempt.trans (hrest after hafterEnv hafterKey)

/-- From an attempt of a turn on, the call does what the loop over the models does. -/
theorem reaches_afterModels (hindex : index < calls.length) (apiKey : JsString) (pc : AiCallPc)
    (n : Nat) (henv : run.config.env = env) (hkey : run.config.keyIndex = k)
    (hn : modelAttempt + (n + 1) = (modelsFor run.config model).length) :
    let start := AiCall.startModel (readRun modelAttempt run).config (callOf model run pc) keyAttempt
      modelAttempt (k % env.keyCount) apiKey (readModel model modelAttempt run)
    let after := afterModels model keyAttempt pc
      (AiRun.modelLoop ask model apiKey (List.range' modelAttempt (n + 1)) run)
    Reaches ask index ⟨start.1, calls.set index start.2⟩ ⟨after.1, calls.set index after.2⟩ := by
  -- on the models that are left
  induction n generalizing modelAttempt run with
  | zero =>
    refine reaches_attemptOf hindex apiKey pc [] henv hkey fun after hafterEnv hafterKey => ?_
    have hlast : ¬ modelAttempt + 1 < (modelsFor after.config model).length := by
      rw [modelsFor_congr (hafterEnv.trans henv.symm)]
      omega
    rw [afterAttempt, if_neg hlast]
    exact .refl _
  | succ n ih =>
    rw [List.range'_succ]
    refine reaches_attemptOf hindex apiKey pc _ henv hkey fun after hafterEnv hafterKey => ?_
    have hleft : modelAttempt + 1 + (n + 1) = (modelsFor after.config model).length := by
      rw [modelsFor_congr (hafterEnv.trans henv.symm)]
      omega
    have hmore : modelAttempt + 1 < (modelsFor after.config model).length := by omega
    rw [afterAttempt, if_pos hmore]
    exact ih hafterEnv hafterKey hleft

variable (ask model) in
theorem modelLoop_env (apiKey : JsString) (modelAttempts : List Nat) (run : AiRun) :
    (AiRun.modelLoop ask model apiKey modelAttempts run).1.config.env = run.config.env := by
  induction modelAttempts generalizing run with
  | nil => rfl
  | cons modelAttempt modelAttempts ih =>
    obtain ⟨-, hafterEnv, -⟩ := @attempt_readRun ask run modelAttempt _ _ rfl rfl apiKey
      (readModel model modelAttempt run)
    rw [modelLoop_readRun]
    generalize (readRun modelAttempt run).attempt ask apiKey (readModel model modelAttempt run) =
      attempt at *
    obtain ⟨after, result⟩ := attempt
    cases result with
    | some result => exact hafterEnv
    | none => exact (ih after).trans hafterEnv

theorem keyLoop_modelsFor (apiKeys models : List JsString) (keys : Nat) :
    AiRun.keyLoop ask model apiKeys models (keys + 1) run =
      match AiRun.modelLoop ask model (run.config.getCurrentApiKey.getD (apiKeys.head?.getD []))
        (List.range models.length) run with
      | (after, some result) => (after, some result)
      | (after, none) => AiRun.keyLoop ask model apiKeys models keys
          { after with config := after.config.rotateApiKey } := rfl

/-- From the first attempt of a turn on, the call does what the loop over the keys does. -/
theorem reaches_afterKeys (hindex : index < calls.length) (pc : AiCallPc) (keys : Nat)
    (hn : keyAttempt + keys = run.config.getApiKeys.length)
    (hmodels : 0 < (modelsFor run.config model).length) :
    let start := AiCall.startKey run.config (callOf model run pc) keyAttempt
    let after := afterKeys model (AiRun.keyLoop ask model run.config.getApiKeys
      (modelsFor run.config model) keys run)
    Reaches ask index ⟨start.1, calls.set index start.2⟩ ⟨after.1, calls.set index after.2⟩ := by
  -- on the keys that are left
  induction keys generalizing keyAttempt run with
  | zero =>
    rw [AiCall.startKey, if_neg (by omega)]
    exact .refl _
  | succ keys ih =>
    rw [AiCall.startKey, if_pos (by omega), keyLoop_modelsFor]
    obtain ⟨n, hcount⟩ := Nat.exists_eq_add_one.mpr hmodels
    have hturn := @reaches_afterModels ask index run calls model keyAttempt 0 _ _ hindex
      (run.config.getCurrentApiKey.getD (run.config.getApiKeys.head?.getD [])) pc n rfl rfl
      (by omega)
    have hafterEnv := modelLoop_env ask model
      (run.config.getCurrentApiKey.getD (run.config.getApiKeys.head?.getD []))
      (List.range' 0 (n + 1)) run
    rw [hcount, List.range_eq_range']
    generalize AiRun.modelLoop ask model _ _ run = turn at *
    obtain ⟨after, result⟩ := turn
    cases result with
    | some result => exact hturn
    | none =>
      -- the turn has come to nothing: the next one starts from the next key
      refine hturn.trans ?_
      have hrotated : after.config.rotateApiKey.env = run.config.env :=
        (env_rotateApiKey after.config).trans hafterEnv
      have hkeys := getApiKeys_congr hrotated
      have hnext := @ih { after with config := after.config.rotateApiKey } (keyAttempt + 1)
      rw [hkeys, modelsFor_congr hrotated] at hnext
      exact hnext (by omega) hmodels

end Turn

theorem generateContent_modelsFor (config : AiConfigService) :
    config.generateContent ask model =
      let run : AiRun := { config := config, tried := [], lastError := none }
      if config.getApiKeys.length = 0 then
        (run, .error
          { code := js "AI_MISSING_API_KEY", message := js "Gemini API key is not configured" })
      else if (modelsFor config model).length = 0 then
        (run, .error
          { code := js "AI_MISSING_MODEL", message := js "Gemini model is not configured" })
      else
        match AiRun.keyLoop ask model config.getApiKeys (modelsFor config model)
          config.getApiKeys.length run with
        | (after, some result) => (after, .ok result)
        | (after, none) => (after, .error (.ofLastError after.lastError)) := rfl

/-- **A call alone does what `generateContent` does**, with the same answers to the same attempts. -/
theorem startCall_alone (ask : AiTry → AiAnswer) (config : AiConfigService) (model : Option JsString)
    (calls : List AiCall) :
    let start := config.startCall model
    let after := config.generateContent ask model
    let ended := callOf model after.1
      (match after.2 with
        | .ok result => .returned result
        | .error exception => .threw exception)
    Reaches ask calls.length ⟨start.1, calls ++ [start.2]⟩ ⟨after.1.config, calls ++ [ended]⟩ := by
  simp only [AiConfigService.startCall, generateContent_modelsFor]
  split
  · exact .refl _
  · next hkeys =>
    split
    · exact .refl _
    · next hmodels =>
      let run : AiRun := { config := config, tried := [], lastError := none }
      -- the first attempt is made in the step that starts the call
      let started : AiCall := callOf model run (.threw (.ofLastError none))
      have hloop := @reaches_afterKeys ask calls.length run (calls ++ [started]) model 0 (by simp)
        (.threw (.ofLastError none)) config.getApiKeys.length (Nat.zero_add _)
        (Nat.pos_of_ne_zero hmodels)
      have hset (next : AiCall) : (calls ++ [started]).set calls.length next = calls ++ [next] := by
        simp
      simp only [hset] at hloop
      generalize AiRun.keyLoop ask model _ _ _ run = after at hloop ⊢
      obtain ⟨after, result⟩ := after
      cases result with
      | some result => exact hloop
      | none => exact hloop

end Alone

end ChatSC.Spec
