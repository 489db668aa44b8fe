import ChatSC.Spec.MessagePane

/-!
# A page whose requests are answered at once

A request of `ChatPage` and its answer, with nothing in between (`run_fetchEvents`).
-/

namespace ChatSC.Spec

open Backend Frontend Transition

/-! ## A request and its answer -/

/-- The events of the request with this index that the server answers from a database, or that
    fails. -/
def fetchEvents (index : Nat) (db : ChatDb) : Option (ObjectId → DisplayInput) → List PageEvent
  | some input => [.serve index db input, .complete index, .render]
  | none => [.fail index, .render]

/-- What the page has come to then. -/
def afterAnswer (env : BackendEnv) (db : ChatDb) (purpose : FetchPurpose) (conversation : ObjectId)
    (state : ChatState) : Option (ObjectId → DisplayInput) → Option ChatState
  | some input =>
    (getMessages env input db conversation purpose.before 10).map fun messages =>
      purpose.resolve state (messages.map .ofPayload)
  | none => some (purpose.reject state)

theorem run_fetchEvents (env : BackendEnv) {db : ChatDb}
    (hids : (db.messages.map Backend.Message.id).Nodup) (page : ChatPage) (purpose : FetchPurpose)
    (conversation : ObjectId) (answer : Option (ObjectId → DisplayInput)) :
    run (pageStep env) (page.request purpose conversation)
        (fetchEvents page.fetches.length db answer) =
      (afterAnswer env db purpose conversation page.state answer).map fun state =>
        ⟨state, state, page.fetches ++ [⟨purpose, conversation, .ended⟩]⟩ := by
  -- the request is the last one, whatever becomes of it
  have hrequest (status : FetchStatus) :
      (page.fetches ++ [(⟨purpose, conversation, status⟩ : Fetch)])[page.fetches.length]? =
        some ⟨purpose, conversation, status⟩ := List.getElem?_concat_length
  cases answer with
  | none =>
    simp only [fetchEvents, run, pageStep, ChatPage.request, ChatPage.setState, ChatPage.setStatus,
      hrequest, Records.modify_concat]
    rfl
  | some input =>
    simp only [fetchEvents, afterAnswer, run, pageStep, ChatPage.request, ChatPage.setStatus,
      hrequest, if_pos hids]
    cases getMessages env input db conversation purpose.before 10 with
    | none => rfl
    | some messages =>
      simp only [Option.map_some, Records.modify_concat, hrequest, ChatPage.setState]

end ChatSC.Spec
