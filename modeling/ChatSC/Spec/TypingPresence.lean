import ChatSC.Frontend.TypingPresence
import ChatSC.Spec.Subscriptions

/-!
# Who is shown as typing

An indicator is shown from the event that says that somebody types until the next event of the
conversation or the end of its time, whatever the order of events and timers: no indicator stays,
and no timer takes a newer one away (`typingShown_of_run`).  `TypingNotes` says what that means
without timers: the last event of each conversation and when it came.

Behind the gateway, nobody can be shown as typing who has not asked for it
(`typingSender_of_run`).
-/

namespace ChatSC.Spec

open Backend Frontend JsString Records Transition

/-! ## The last event of each conversation -/

/-- What there is to know of the events so far. -/
structure TypingNotes where
  user : Option JsString
  now : Date
  /-- the last event of the conversation that is not the user's own, and when it came -/
  last : JsString → Option (TypingPresenceUpdate × Date)

/-- Before all events. -/
def TypingNotes.start (now : Date) : TypingNotes := ⟨none, now, fun _ => none⟩

/-- One more event. -/
def TypingNotes.note (notes : TypingNotes) : TypingEvent → TypingNotes
  | .deliver payload =>
    if some payload.userId = notes.user then notes
    else
      { notes with
        last := Function.update notes.last payload.conversationId (some (payload, notes.now)) }
  | .signIn userId => { notes with user := userId }
  | .tick now => { notes with now := now }
  | .timeout _ => notes

/-- When the time of an indicator that came at `since` is over. -/
def expiry (payload : TypingPresenceUpdate) (since : Date) : Date :=
  max (payload.expiresAt.getD (since + 4000)) since

/-- The timers of a conversation. -/
def timersOf (timers : List TypingTimer) (conversationId : JsString) : List TypingTimer :=
  timers.filter (·.conversationId = conversationId)

/-- What the page shows, by the last event of each conversation. -/
structure TypingShown (notes : TypingNotes) (page : TypingPage) : Prop where
  /-- an indicator is that of the last event, and exactly one timer will take it away in time -/
  shown : ∀ conversationId payload, page.typingByConversationId conversationId = some payload →
    payload.isTyping = true ∧ ∃ since id, notes.last conversationId = some (payload, since) ∧
      timersOf page.timers conversationId = [⟨id, conversationId, expiry payload since⟩]
  /-- without one nobody types, as far as is known -/
  hidden : ∀ conversationId, page.typingByConversationId conversationId = none →
    timersOf page.timers conversationId = [] ∧
      ∀ payload since, notes.last conversationId = some (payload, since) →
        payload.isTyping = true → expiry payload since ≤ page.now
  /-- when no timer is late, the last event and the clock decide -/
  inTime : (∀ timer ∈ page.timers, page.now < timer.due) →
    ∀ conversationId, page.typingByConversationId conversationId =
      (notes.last conversationId).bind fun (payload, since) =>
        if payload.isTyping = true ∧ page.now < expiry payload since then some payload else none

/-! ## One conversation -/

/-- Nothing is shown for the conversation. -/
structure NotTyping (notes : TypingNotes) (page : TypingPage) (conversationId : JsString) :
    Prop where
  hidden : page.typingByConversationId conversationId = none
  timeout : page.typingTimeouts conversationId = none
  timers : timersOf page.timers conversationId = []
  last : ∀ payload since, notes.last conversationId = some (payload, since) →
    payload.isTyping = true → expiry payload since ≤ page.now

/-- The indicator of the last event is shown, until its timer gets its turn. -/
structure ShowsTyping (notes : TypingNotes) (page : TypingPage) (conversationId : JsString)
    (payload : TypingPresenceUpdate) (since : Date) (id : Nat) : Prop where
  shown : page.typingByConversationId conversationId = some payload
  typing : payload.isTyping = true
  timeout : page.typingTimeouts conversationId = some id
  timers : timersOf page.timers conversationId = [⟨id, conversationId, expiry payload since⟩]
  last : notes.last conversationId = some (payload, since)

/-- Every conversation is in one of these states, and timers have ids of their own. -/
structure TypingInv (notes : TypingNotes) (page : TypingPage) : Prop where
  user : page.currentUserId = notes.user
  now : page.now = notes.now
  conversation : ∀ conversationId, NotTyping notes page conversationId ∨
    ∃ payload since id, ShowsTyping notes page conversationId payload since id
  ids : (page.timers.map TypingTimer.id).Nodup
  fresh : ∀ timer ∈ page.timers, timer.id < page.nextTimer

section Timers

variable {timers : List TypingTimer} {timer : TypingTimer} {conversationId : JsString} {id : Nat}

theorem mem_timersOf : timer ∈ timersOf timers conversationId ↔
    timer ∈ timers ∧ timer.conversationId = conversationId := by
  simp [timersOf]

theorem timersOf_concat_self (h : timer.conversationId = conversationId) :
    timersOf (timers ++ [timer]) conversationId = timersOf timers conversationId ++ [timer] := by
  simp [timersOf, h]

theorem timersOf_concat_of_ne (hne : timer.conversationId ≠ conversationId) :
    timersOf (timers ++ [timer]) conversationId = timersOf timers conversationId := by
  simp [timersOf, hne]

/-- The timers of a conversation without the one that is cleared. -/
theorem timersOf_filter_ne :
    timersOf (timers.filter (·.id ≠ id)) conversationId =
      (timersOf timers conversationId).filter (·.id ≠ id) := by
  simp only [timersOf, List.filter_filter]
  exact List.filter_congr fun _ _ => Bool.and_comm _ _

/-- Clearing a timer leaves other conversations alone. -/
theorem timersOf_clear_of_ne (hids : (timers.map TypingTimer.id).Nodup) (hmem : timer ∈ timers)
    (hne : timer.conversationId ≠ conversationId) :
    timersOf (timers.filter (·.id ≠ timer.id)) conversationId = timersOf timers conversationId := by
  rw [timersOf_filter_ne, List.filter_eq_self]
  intro other hother
  obtain ⟨hin, hconversation⟩ := mem_timersOf.mp hother
  refine decide_eq_true fun heq => hne ?_
  -- ids are unique, so it would be the same timer
  rw [← List.inj_on_of_nodup_map hids hin hmem heq]
  exact hconversation

end Timers

section Page

variable {notes notes' : TypingNotes} {page page' : TypingPage} {conversationId : JsString}

/-- What does not touch a conversation leaves it in its state. -/
theorem TypingInv.conversation_of_eq (h : TypingInv notes page)
    (htyping : page'.typingByConversationId conversationId =
      page.typingByConversationId conversationId)
    (htimeout : page'.typingTimeouts conversationId = page.typingTimeouts conversationId)
    (htimers : timersOf page'.timers conversationId = timersOf page.timers conversationId)
    (hlast : notes'.last conversationId = notes.last conversationId) (hnow : page.now ≤ page'.now) :
    NotTyping notes' page' conversationId ∨
      ∃ payload since id, ShowsTyping notes' page' conversationId payload since id := by
  rcases h.conversation conversationId with hrest | ⟨payload, since, id, hshow⟩
  · refine .inl ⟨htyping.trans hrest.hidden, htimeout.trans hrest.timeout,
      htimers.trans hrest.timers, fun payload since heq htrue => ?_⟩
    exact (hrest.last payload since (hlast.symm.trans heq) htrue).trans hnow
  · exact .inr ⟨payload, since, id, htyping.trans hshow.shown, hshow.typing,
      htimeout.trans hshow.timeout, htimers.trans hshow.timers, hlast.trans hshow.last⟩

/-- A timer of a conversation is the one that its indicator has. -/
theorem TypingInv.showing_of_mem (h : TypingInv notes page) {timer : TypingTimer}
    (hmem : timer ∈ page.timers) :
    ∃ payload since, ShowsTyping notes page timer.conversationId payload since timer.id ∧
      timer.due = expiry payload since := by
  have hof : timer ∈ timersOf page.timers timer.conversationId := mem_timersOf.mpr ⟨hmem, rfl⟩
  rcases h.conversation timer.conversationId with hrest | ⟨payload, since, id, hshow⟩
  · rw [hrest.timers] at hof
    exact absurd hof List.not_mem_nil
  · rw [hshow.timers] at hof
    have htimer := List.mem_singleton.mp hof
    have hid : timer.id = id := congrArg TypingTimer.id htimer
    subst hid
    exact ⟨payload, since, hshow, congrArg TypingTimer.due htimer⟩

/-- Clearing what is there for a conversation touches no other. -/
theorem TypingInv.cleared (h : TypingInv notes page) (conversationId : JsString) :
    timersOf (page.clearExistingTimeout conversationId).timers conversationId = [] ∧
      (page.clearExistingTimeout conversationId).typingTimeouts conversationId = none ∧
      ∀ other, other ≠ conversationId →
        timersOf (page.clearExistingTimeout conversationId).timers other =
            timersOf page.timers other ∧
          (page.clearExistingTimeout conversationId).typingTimeouts other =
            page.typingTimeouts other := by
  rcases h.conversation conversationId with hrest | ⟨payload, since, id, hshow⟩
  · -- nothing is shown, so there is no timer to clear
    have hsame : page.clearExistingTimeout conversationId = page := by
      simp only [TypingPage.clearExistingTimeout, hrest.timeout]
    rw [hsame]
    exact ⟨hrest.timers, hrest.timeout, fun _ _ => ⟨rfl, rfl⟩⟩
  · -- the one timer of the conversation goes
    simp only [TypingPage.clearExistingTimeout, hshow.timeout, TypingPage.clearTimeout]
    have hmem : ⟨id, conversationId, expiry payload since⟩ ∈ page.timers :=
      (mem_timersOf.mp (hshow.timers ▸ List.mem_cons_self)).1
    refine ⟨?_, Function.update_self .., fun other hne => ⟨?_, Function.update_of_ne hne ..⟩⟩
    · rw [timersOf_filter_ne, hshow.timers]
      simp
    · exact timersOf_clear_of_ne h.ids hmem (Ne.symm hne)

/-- What clearing leaves as it was. -/
theorem sublist_clearExistingTimeout :
    (page.clearExistingTimeout conversationId).timers.Sublist page.timers := by
  unfold TypingPage.clearExistingTimeout
  split
  · exact List.Sublist.refl _
  · exact List.filter_sublist

@[simp] theorem now_clearExistingTimeout :
    (page.clearExistingTimeout conversationId).now = page.now := by
  unfold TypingPage.clearExistingTimeout
  split <;> rfl

@[simp] theorem currentUserId_clearExistingTimeout :
    (page.clearExistingTimeout conversationId).currentUserId = page.currentUserId := by
  unfold TypingPage.clearExistingTimeout
  split <;> rfl

@[simp] theorem nextTimer_clearExistingTimeout :
    (page.clearExistingTimeout conversationId).nextTimer = page.nextTimer := by
  unfold TypingPage.clearExistingTimeout
  split <;> rfl

@[simp] theorem typingByConversationId_clearExistingTimeout :
    (page.clearExistingTimeout conversationId).typingByConversationId =
      page.typingByConversationId := by
  unfold TypingPage.clearExistingTimeout
  split <;> rfl

/-- `Math.max(expiresAt - Date.now(), 0)` from now on. -/
theorem add_sub_eq_max (a b : Nat) : a + (b - a) = max b a := by omega

/-- An event of the socket. -/
theorem TypingInv.deliver (h : TypingInv notes page) (payload : TypingPresenceUpdate) :
    TypingInv (notes.note (.deliver payload)) (page.handleTypingPresence payload) := by
  by_cases hown : some payload.userId = notes.user
  · -- an event about the user of the page himself is ignored
    simp only [TypingPage.handleTypingPresence, TypingNotes.note, h.user, if_pos hown]
    exact h
  · simp only [TypingPage.handleTypingPresence, TypingNotes.note, h.user, if_neg hown]
    obtain ⟨hnone, htimeout, hothers⟩ := h.cleared payload.conversationId
    have hsub : (page.clearExistingTimeout payload.conversationId).timers.Sublist page.timers :=
      sublist_clearExistingTimeout
    have hids := h.ids.sublist (hsub.map TypingTimer.id)
    have hfresh : ∀ timer ∈ (page.clearExistingTimeout payload.conversationId).timers,
        timer.id < page.nextTimer := fun timer hmem => h.fresh timer (hsub.subset hmem)
    by_cases htyping : payload.isTyping = true
    · -- the indicator is shown, with a timer of its own
      simp only [if_pos htyping, TypingPage.setTimeout, now_clearExistingTimeout,
        nextTimer_clearExistingTimeout, typingByConversationId_clearExistingTimeout,
        currentUserId_clearExistingTimeout]
      refine ⟨h.user, h.now, fun conversationId => ?_, ?_, fun timer hmem => ?_⟩
      · -- the conversation of the event: its old timer is gone and the new one is the only one
        by_cases heq : conversationId = payload.conversationId
        · subst heq
          refine .inr ⟨payload, notes.now, page.nextTimer, Function.update_self .., htyping,
            Function.update_self .., ?_, Function.update_self ..⟩
          have hdue : notes.now + (payload.expiresAt.getD (notes.now + 4000) - notes.now) =
              expiry payload notes.now := add_sub_eq_max _ _
          simp only
          rw [timersOf_concat_self rfl, hnone, List.nil_append, h.now, hdue]
        · obtain ⟨htimers, htimeouts⟩ := hothers conversationId heq
          -- another conversation keeps what it had
          refine h.conversation_of_eq (Function.update_of_ne heq ..) ?_ ?_
            (Function.update_of_ne heq ..) le_rfl
          · exact (Function.update_of_ne heq ..).trans htimeouts
          · exact (timersOf_concat_of_ne (Ne.symm heq)).trans htimers
      · -- the new timer has a number that no earlier one had
        refine nodup_map_concat hids fun hmem => ?_
        obtain ⟨timer, hin, heq⟩ := List.mem_map.mp hmem
        exact absurd heq (Nat.ne_of_lt (hfresh timer hin))
      · rcases List.mem_append.mp hmem with hold | hnew
        · exact Nat.lt_succ_of_lt (hfresh timer hold)
        · rw [List.mem_singleton.mp hnew]
          exact Nat.lt_succ_self _
    · -- the last event says that nobody types
      simp only [if_neg htyping, now_clearExistingTimeout, nextTimer_clearExistingTimeout,
        typingByConversationId_clearExistingTimeout, currentUserId_clearExistingTimeout]
      refine ⟨h.user, h.now, fun conversationId => ?_, hids, hfresh⟩
      by_cases heq : conversationId = payload.conversationId
      · subst heq
        refine .inl ⟨Function.update_self .., htimeout, hnone, fun payload' since hlast htrue => ?_⟩
        cases (Function.update_self ..).symm.trans hlast
        exact absurd htrue htyping
      · obtain ⟨htimers, htimeouts⟩ := hothers conversationId heq
        exact h.conversation_of_eq (Function.update_of_ne heq ..) htimeouts htimers
          (Function.update_of_ne heq ..) le_rfl

/-- A timer gets its turn. -/
theorem TypingInv.timeout (h : TypingInv notes page) {timer : TypingTimer}
    (hmem : timer ∈ page.timers) (hdue : timer.due ≤ page.now) :
    TypingInv notes (page.onTimeout timer) := by
  obtain ⟨payload, since, hshow, hexpiry⟩ := h.showing_of_mem hmem
  have hsub : (page.timers.filter (·.id ≠ timer.id)).Sublist page.timers := List.filter_sublist
  refine ⟨h.user, h.now, fun conversationId => ?_, h.ids.sublist (hsub.map TypingTimer.id),
    fun other hother => h.fresh other (hsub.subset hother)⟩
  -- a conversation has one timer at most, so the one that fires leaves none
  by_cases heq : conversationId = timer.conversationId
  · subst heq
    refine .inl ⟨Function.update_self .., Function.update_self .., ?_,
      fun payload' since' hlast htrue => ?_⟩
    · show timersOf (page.timers.filter (·.id ≠ timer.id)) timer.conversationId = []
      rw [timersOf_filter_ne, hshow.timers]
      simp
    · cases hshow.last.symm.trans hlast
      exact hexpiry ▸ hdue
  · exact h.conversation_of_eq (Function.update_of_ne heq ..) (Function.update_of_ne heq ..)
      (timersOf_clear_of_ne h.ids hmem (Ne.symm heq)) rfl le_rfl

theorem TypingInv.step (h : TypingInv notes page) {event : TypingEvent}
    (hstep : typingStep page event = some page') : TypingInv (notes.note event) page' := by
  cases event with
  | deliver payload =>
    cases hstep
    exact h.deliver payload
  | signIn userId =>
    cases hstep
    -- who is signed in is read by the next events only
    exact ⟨rfl, h.now, fun conversationId => h.conversation_of_eq rfl rfl rfl rfl le_rfl, h.ids,
      h.fresh⟩
  | tick now =>
    simp only [typingStep] at hstep
    split at hstep
    · rename_i hle
      cases hstep
      -- time goes on, so what expired stays expired
      exact ⟨h.user, rfl, fun conversationId => h.conversation_of_eq rfl rfl rfl rfl hle, h.ids,
        h.fresh⟩
    · cases hstep
  | timeout id =>
    simp only [typingStep] at hstep
    split at hstep
    · cases hstep
    · rename_i timer hfind
      split at hstep
      · rename_i hdue
        cases hstep
        -- the timer that fires is due, and it belongs to what is shown
        exact h.timeout (List.mem_of_find?_eq_some hfind) hdue
      · cases hstep

/-- What the invariant says of what is shown. -/
theorem TypingInv.typingShown (h : TypingInv notes page) : TypingShown notes page := by
  -- nothing is shown only where nobody types
  have hhidden : ∀ conversationId, page.typingByConversationId conversationId = none →
      NotTyping notes page conversationId := by
    intro conversationId heq
    rcases h.conversation conversationId with hrest | ⟨payload, since, id, hshow⟩
    · exact hrest
    · cases heq.symm.trans hshow.shown
  refine ⟨fun conversationId payload heq => ?_, fun conversationId heq =>
    ⟨(hhidden conversationId heq).timers, (hhidden conversationId heq).last⟩,
    fun hinTime conversationId => ?_⟩
  · -- what is shown came from the last event, with its timer
    rcases h.conversation conversationId with hrest | ⟨payload', since, id, hshow⟩
    · cases heq.symm.trans hrest.hidden
    · cases heq.symm.trans hshow.shown
      exact ⟨hshow.typing, since, id, hshow.last, hshow.timers⟩
  · rcases h.conversation conversationId with hrest | ⟨payload, since, id, hshow⟩
    · -- what was the last to be said has expired, or said that nobody types
      rw [hrest.hidden]
      cases hlast : notes.last conversationId with
      | none => rfl
      | some entry =>
        obtain ⟨payload, since⟩ := entry
        refine (if_neg fun hboth => ?_).symm
        exact absurd (hrest.last payload since hlast hboth.1) (Nat.not_le_of_lt hboth.2)
    · -- its timer is not late
      have hmem := (mem_timersOf.mp (hshow.timers ▸ List.mem_cons_self)).1
      rw [hshow.shown, hshow.last]
      exact (if_pos ⟨hshow.typing, hinTime _ hmem⟩).symm

end Page

/-! ## Runs -/

section Runs

variable {events : List TypingEvent} {page : TypingPage} {now : Date}

theorem typingInv_start (now : Date) : TypingInv (.start now) (.start now) where
  user := rfl
  now := rfl
  conversation _ := .inl ⟨rfl, rfl, rfl, fun _ _ hlast => by cases hlast⟩
  ids := List.nodup_nil
  fresh _ hmem := absurd hmem List.not_mem_nil

theorem typingInv_of_run (hrun : run typingStep (.start now) events = some page) :
    TypingInv (events.foldl TypingNotes.note (.start now)) page := by
  have hkeep : ∀ events page event page', run typingStep (.start now) events = some page →
      TypingInv (List.foldl TypingNotes.note (.start now) events) page →
        typingStep page event = some page' →
          TypingInv (List.foldl TypingNotes.note (.start now) (events ++ [event])) page' := by
    intro events page event page' _ h hstep
    rw [List.foldl_append]
    exact h.step hstep
  exact run_invariant_history hkeep (typingInv_start now) hrun

/-- In every run of the page, with events, timers and the clock in any order. -/
theorem typingShown_of_run (hrun : run typingStep (.start now) events = some page) :
    TypingShown (events.foldl TypingNotes.note (.start now)) page :=
  (typingInv_of_run hrun).typingShown

/-- Amy types, twice, in one conversation and Bob in another; the timer of Amy's first event has
    been cleared, Bob's takes him away. -/
def typingEvents : List TypingEvent :=
  [.signIn (some (js "me")), .deliver ⟨js "a", js "me", true, none⟩,
    .deliver ⟨js "a", js "amy", true, some 4000⟩, .tick 100,
    .deliver ⟨js "b", js "bob", true, none⟩, .tick 2000,
    .deliver ⟨js "a", js "amy", true, some 6000⟩, .tick 4200, .timeout 2]

theorem typingShown_of_run_two : ∃ page,
    run typingStep (.start 0) typingEvents = some page ∧
      page.typingByConversationId (js "a") = some ⟨js "a", js "amy", true, some 6000⟩ ∧
      page.typingByConversationId (js "b") = none ∧
      TypingShown (typingEvents.foldl TypingNotes.note (.start 0)) page := by
  have hshown : ((run typingStep (.start 0) typingEvents).map fun page =>
      (page.typingByConversationId (js "a"), page.typingByConversationId (js "b"))) =
        some (some ⟨js "a", js "amy", true, some 6000⟩, none) := by decide +kernel
  obtain ⟨page, hrun, heq⟩ := Option.map_eq_some_iff.mp hshown
  exact ⟨page, hrun, congrArg Prod.fst heq, congrArg Prod.snd heq, typingShown_of_run hrun⟩

end Runs

/-! ## Behind the gateway -/

/-- The gateway has let somebody say that he types, or no longer does, and the page's socket into
    the conversation. -/
structure TypedBy (gateway : ChatGateway) (client : Nat) (payload : TypingPresenceUpdate) :
    Prop where
  /-- another socket has, whose user it is -/
  sender : ∃ index socket, index ≠ client ∧ gateway.sockets[index]? = some socket ∧
    payload.userId = socket.user.toString ∧
      .typingPresence index payload.conversationId payload.isTyping .returned ∈ gateway.tasks
  room : .joinConversation client payload.conversationId .returned ∈ gateway.tasks

section Gateway

variable {env : BackendEnv} {config : AiConfig} {gateway gateway' : ChatGateway}
  {event : GatewayEvent} {client : Nat} {payload : TypingPresenceUpdate}

/-- A socket keeps its user. -/
theorem exists_user_of_gatewayStep (hstep : gatewayStep env config gateway event = some gateway')
    {socket : ChatSocket} (hsocket : gateway.sockets[client]? = some socket) :
    ∃ socket', gateway'.sockets[client]? = some socket' ∧ socket'.user = socket.user := by
  obtain ⟨⟨gateway'', deliveries⟩, hnext, rfl⟩ := Option.map_eq_some_iff.mp hstep
  cases gatewayNext_cases hnext with
  | connected user => exact ⟨socket, getElem?_concat_eq_some.mpr (.inr hsocket), rfl⟩
  | disconnected index =>
    exact socket_modify (P := fun socket socket' => socket'.user = socket.user) (fun _ => rfl)
      (fun _ socket => (handleDisconnect_spec socket).1) hsocket
  | left index s =>
    exact socket_modify (P := fun socket socket' => socket'.user = socket.user) (fun _ => rfl)
      (fun _ socket => user_leaveConversation socket _) hsocket
  | received | requested | confirmed => exact ⟨socket, hsocket, rfl⟩
  | stepped index input task next htask htaken =>
    cases taskStep_effect htaken with
    | joined index s =>
      exact socket_modify (P := fun socket socket' => socket'.user = socket.user) (fun _ => rfl)
        (fun _ socket => by simp) hsocket
    | _ => exact ⟨socket, hsocket, rfl⟩

theorem TypedBy.step (h : TypedBy gateway client payload)
    (hstep : gatewayStep env config gateway event = some gateway') :
    TypedBy gateway' client payload := by
  obtain ⟨⟨index, socket, hne, hsocket, huser, htask⟩, hroom⟩ := h
  obtain ⟨socket', hsocket', huser'⟩ := exists_user_of_gatewayStep hstep hsocket
  exact ⟨⟨index, socket', hne, hsocket', huser.trans (by rw [huser']),
      mem_tasks_of_ended (fun _ _ _ _ hmove => by cases hmove) htask hstep⟩,
    mem_tasks_of_ended (fun _ _ _ _ hmove => by cases hmove) hroom hstep⟩

/-- Messages and previews are not about typing. -/
theorem typingUpdate?_emitStep {db : ChatDb} {sockets : List ChatSocket} {s : JsString}
    {input : GatewayInput} {pc pc' : EmitPc} {deliveries : List SocketDelivery}
    (h : emitStep env db sockets s input pc = some (pc', deliveries)) :
    ∀ d ∈ deliveries, typingUpdate? client d = none := by
  intro d hd
  cases pc with
  -- the reader's copy is built and nothing goes out
  | presenting message =>
    obtain ⟨payload, -, heq⟩ := Option.map_eq_some_iff.mp h
    cases heq
    exact absurd hd List.not_mem_nil
  | findingActive c message =>
    cases h
    exact absurd hd List.not_mem_nil
  | emittingPreviews message userIds =>
    cases h
    obtain ⟨userId, -, hd⟩ := List.mem_flatMap.mp hd
    -- a preview is an event of another name
    simp [typingUpdate?, (mem_emitTo.mp hd).1]
  | emittingMessage message userIds =>
    -- the message itself, to the room and to the members
    cases h
    rcases List.mem_append.mp hd with hd | hd
    · simp [typingUpdate?, (mem_emitTo.mp hd).1]
    · obtain ⟨userId, -, hd⟩ := List.mem_flatMap.mp hd
      simp [typingUpdate?, (mem_emitTo.mp hd).1]
  | emitted message => cases h

/-- An event that says that somebody types, or no longer does, comes from the handler of his. -/
theorem typingPresence_of_taskMove {db : ChatDb} {sockets : List ChatSocket} {input : GatewayInput}
    {task : GatewayTask} {next : TaskStep} (h : TaskMove env config db sockets input task next)
    {d : SocketDelivery} (hd : d ∈ next.deliveries)
    (hpayload : typingUpdate? client d = some payload) :
    ∃ sender s isTyping, task = .typingPresence sender s isTyping .checked := by
  cases h with
  -- the only move that sends such an event, after the check of the membership
  | typed sender s userId isTyping expiresAt => exact ⟨sender, s, isTyping, rfl⟩
  | emitting args fromSocket pc pc' deliveries hemit =>
    cases (typingUpdate?_emitStep hemit d hd).symm.trans hpayload
  | answerEmitting s userId pc pc' deliveries hemit =>
    cases (typingUpdate?_emitStep hemit d hd).symm.trans hpayload
  | readPreviewed args last userIds =>
    obtain ⟨userId, -, hd⟩ := List.mem_flatMap.mp hd
    simp [typingUpdate?, (mem_emitTo.mp hd).1] at hpayload
  | readEmitted args last =>
    rcases List.mem_append.mp hd with hd | hd <;>
      simp [typingUpdate?, (mem_emitTo.mp hd).1] at hpayload
  | moderated s userId messageId =>
    rcases List.mem_append.mp hd with hd | hd <;>
      simp [typingUpdate?, (mem_emitTo.mp hd).1] at hpayload
  | _ => exact absurd hd List.not_mem_nil

/-- What the gateway emits to the page's socket has a sender, and the socket is in the room. -/
theorem typedBy_of_delivery (hrooms : RoomsAccepted gateway) {deliveries : List SocketDelivery}
    (hnext : gatewayNext env config gateway event = some (gateway', deliveries))
    {d : SocketDelivery} (hd : d ∈ deliveries) (hpayload : typingUpdate? client d = some payload) :
    TypedBy gateway' client payload := by
  have hstep : gatewayStep env config gateway event = some gateway' := by
    rw [gatewayStep, hnext]
    rfl
  cases gatewayNext_cases hnext with
  | connected user =>
    rw [List.mem_singleton.mp hd] at hpayload
    cases hpayload
  | disconnected | left | received | requested | confirmed => exact absurd hd List.not_mem_nil
  | stepped index input task next htask htaken =>
    obtain ⟨sender, s, isTyping, rfl⟩ :=
      typingPresence_of_taskMove (taskStep_cases htaken) hd hpayload
    rw [taskStep] at htaken
    obtain ⟨socket, hsocket, rfl⟩ := Option.map_eq_some_iff.mp htaken
    -- the sender's own socket is left out, and the others are in the room
    obtain ⟨hd, hne⟩ := List.mem_filter.mp hd
    obtain ⟨hevent, receiver, hreceiver, hroom⟩ := mem_emitTo.mp hd
    simp only [typingUpdate?, hevent] at hpayload
    split at hpayload
    · rename_i hclient
      cases hpayload
      subst hclient
      refine ⟨⟨sender, socket, Ne.symm (of_decide_eq_true hne), hsocket, rfl, ?_⟩, ?_⟩
      · exact List.mem_append_left _ (List.mem_set (List.getElem?_eq_some_iff.mp htask).1 _)
      · exact mem_tasks_of_ended (fun _ _ _ _ hmove => by cases hmove)
          (hrooms d.client receiver s hreceiver hroom) hstep
    · cases hpayload

/-- What holds between the gateway and the page. -/
structure TypingSystemInv (system : TypingSystem) : Prop where
  rooms : RoomsAccepted system.gateway
  inFlight : ∀ payload ∈ system.inFlight, TypedBy system.gateway system.client payload
  shown : ∀ conversationId payload,
    system.page.typingByConversationId conversationId = some payload →
      payload.conversationId = conversationId ∧ TypedBy system.gateway system.client payload
  page : ∃ notes, TypingInv notes system.page

/-- What an event of the socket shows. -/
theorem typingByConversationId_handleTypingPresence (page : TypingPage) :
    (page.handleTypingPresence payload).typingByConversationId =
      if some payload.userId = page.currentUserId then page.typingByConversationId
      else Function.update page.typingByConversationId payload.conversationId
        (if payload.isTyping then some payload else none) := by
  unfold TypingPage.handleTypingPresence
  split
  · rfl
  · split <;> simp [TypingPage.setTimeout]

/-- The page shows only what it is told. -/
theorem shown_of_typingStep {page page' : TypingPage} {event : TypingEvent}
    (hstep : typingStep page event = some page') {conversationId : JsString}
    (hshown : page'.typingByConversationId conversationId = some payload) :
    page.typingByConversationId conversationId = some payload ∨
      event = .deliver payload ∧ payload.conversationId = conversationId := by
  cases event with
  | deliver payload' =>
    cases hstep
    rw [typingByConversationId_handleTypingPresence] at hshown
    -- the user's own events change nothing
    split at hshown
    · exact .inl hshown
    · rw [Function.update_apply] at hshown
      split at hshown
      · -- the conversation of the event shows what it says, unless that is that nobody types
        rename_i heq
        split at hshown
        · cases hshown
          exact .inr ⟨rfl, heq.symm⟩
        · cases hshown
      · exact .inl hshown
  | signIn userId =>
    cases hstep
    exact .inl hshown
  | tick now =>
    simp only [typingStep] at hstep
    split at hstep
    · cases hstep
      exact .inl hshown
    · cases hstep
  | timeout id =>
    simp only [typingStep] at hstep
    split at hstep
    · cases hstep
    · rename_i timer hfind
      split at hstep
      · cases hstep
        -- a timer only takes something away
        simp only [TypingPage.onTimeout, Function.update_apply] at hshown
        split at hshown
        · cases hshown
        · exact .inl hshown
      · cases hstep

/-- The page takes a step. -/
theorem TypingSystemInv.pageStep {system : TypingSystem} (h : TypingSystemInv system)
    {event : TypingEvent} {page' : TypingPage} {inFlight : List TypingPresenceUpdate}
    (hstep : typingStep system.page event = some page') (hsub : inFlight ⊆ system.inFlight)
    (hevent : ∀ payload, event = .deliver payload → payload ∈ system.inFlight) :
    TypingSystemInv { system with inFlight := inFlight, page := page' } := by
  refine ⟨h.rooms, fun payload hmem => h.inFlight payload (hsub hmem),
    fun conversationId payload hshown => ?_, ?_⟩
  · rcases shown_of_typingStep hstep hshown with hold | ⟨heq, hconversation⟩
    · exact h.shown conversationId payload hold
    · exact ⟨hconversation, h.inFlight payload (hevent payload heq)⟩
  · obtain ⟨notes, hinv⟩ := h.page
    exact ⟨notes.note event, hinv.step hstep⟩

theorem TypingSystemInv.step {system system' : TypingSystem} (h : TypingSystemInv system)
    {event : TypingSystemEvent} (hstep : typingSystemStep env config system event = some system') :
    TypingSystemInv system' := by
  cases event with
  | gateway event =>
    obtain ⟨⟨gateway', deliveries⟩, hnext, rfl⟩ := Option.map_eq_some_iff.mp hstep
    have hgateway : gatewayStep env config system.gateway event = some gateway' := by
      rw [gatewayStep, hnext]
      rfl
    refine ⟨h.rooms.step hgateway, fun payload hmem => ?_, fun conversationId payload hshown => ?_,
      h.page⟩
    · -- what was under way, and what this move of the gateway sends
      rcases List.mem_append.mp hmem with hold | hnew
      · exact (h.inFlight payload hold).step hgateway
      · obtain ⟨d, hd, hpayload⟩ := List.mem_filterMap.mp hnew
        exact typedBy_of_delivery h.rooms hnext hd hpayload
    · -- what is shown is as true of the later gateway
      obtain ⟨hconversation, htyped⟩ := h.shown conversationId payload hshown
      exact ⟨hconversation, htyped.step hgateway⟩
  | receive =>
    simp only [typingSystemStep] at hstep
    split at hstep
    · cases hstep
    · rename_i payload rest hsent
      obtain ⟨page', hpage, rfl⟩ := Option.map_eq_some_iff.mp hstep
      -- the payload that arrives was under way
      refine h.pageStep hpage (fun other hmem => ?_) fun other heq => ?_
      · rw [hsent]
        exact List.mem_cons_of_mem _ hmem
      · cases heq
        rw [hsent]
        exact List.mem_cons_self
  | lose =>
    cases hstep
    -- the connection is lost with all that was under way
    exact ⟨h.rooms, fun _ hmem => absurd hmem List.not_mem_nil, h.shown, h.page⟩
  | page event =>
    have hpage : (∀ payload, event ≠ .deliver payload) ∧ ∃ page',
        typingStep system.page event = some page' ∧ system' = { system with page := page' } := by
      -- the page's own events bring no payload
      cases event with
      | deliver payload => cases hstep
      | signIn userId | tick now | timeout id =>
        simp only [typingSystemStep] at hstep
        obtain ⟨page', hpage, rfl⟩ := Option.map_eq_some_iff.mp hstep
        exact ⟨fun _ heq => (by cases heq), page', hpage, rfl⟩
    obtain ⟨hevent, page', hpage, rfl⟩ := hpage
    exact h.pageStep hpage (List.Subset.refl _) fun payload heq => absurd heq (hevent payload)

/-- In every run of a page behind the gateway with any other clients: whoever is shown as typing has
    said so over a socket of his own and was let through as a member, the page's socket was let into
    the conversation too, and a timer will take the indicator away. -/
theorem typingSender_of_run {db : ChatDb} {now : Date} {events : List TypingSystemEvent}
    {system : TypingSystem}
    (hrun : run (typingSystemStep env config) (.start db client now) events = some system) :
    ∀ conversationId payload,
      system.page.typingByConversationId conversationId = some payload →
        payload.conversationId = conversationId ∧ payload.isTyping = true ∧
          TypedBy system.gateway system.client payload ∧
            ∃ id due, timersOf system.page.timers conversationId = [⟨id, conversationId, due⟩] := by
  -- nothing is shown and nothing is under way
  have hstart : TypingSystemInv (.start db client now) := by
    refine ⟨fun client socket s hsocket => ?_, fun _ hmem => absurd hmem List.not_mem_nil,
      fun conversationId payload hshown => ?_, ⟨_, typingInv_start now⟩⟩
    · cases hsocket
    · cases hshown
  have hinv : TypingSystemInv system :=
    run_invariant (fun _ _ _ h hstep => h.step hstep) hstart hrun
  intro conversationId payload hshown
  -- the page's invariant has the timer, the system's has the sender
  obtain ⟨notes, hpage⟩ := hinv.page
  obtain ⟨htyping, since, id, -, htimers⟩ := hpage.typingShown.shown conversationId payload hshown
  obtain ⟨hconversation, htyped⟩ := hinv.shown conversationId payload hshown
  exact ⟨hconversation, htyping, htyped, id, _, htimers⟩

end Gateway

/-- The socket of user 2 joins, and user 1 types in the group. -/
def typingGatewayEvents : List GatewayEvent :=
  joinedEvents ++ [.connect (digitId 1),
    .receive 1 (.typingPresenceUpdated (digitId 3).toString true)] ++
      taskSteps 2 (plainInputs 2 7 (digitId 0))

/-- The page of user 2 shows it. -/
def typingSystemEvents : List TypingSystemEvent := typingGatewayEvents.map .gateway ++ [.receive]

theorem typingSender_of_run_joined : ∃ system,
    run (typingSystemStep plainEnv noAi) (.start (ChatDb.start []) 0 5) typingSystemEvents =
        some system ∧
      system.page.typingByConversationId (digitId 3).toString =
        some ⟨(digitId 3).toString, (digitId 1).toString, true, some 4008⟩ ∧
      TypedBy system.gateway system.client
        ⟨(digitId 3).toString, (digitId 1).toString, true, some 4008⟩ := by
  have hshown : ((run (typingSystemStep plainEnv noAi) (.start (ChatDb.start []) 0 5)
      typingSystemEvents).map fun system =>
        system.page.typingByConversationId (digitId 3).toString) =
          some (some ⟨(digitId 3).toString, (digitId 1).toString, true, some 4008⟩) := by
    decide +kernel
  obtain ⟨system, hrun, hfound⟩ := Option.map_eq_some_iff.mp hshown
  exact ⟨system, hrun, hfound, (typingSender_of_run hrun _ _ hfound).2.2.1⟩

end ChatSC.Spec
