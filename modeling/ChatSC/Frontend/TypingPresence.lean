import ChatSC.Backend.ChatGateway
import Mathlib.Logic.Function.Basic

/-!
# Typing indicators (`handleTypingPresence` of `chat.page.tsx`)

The part of `ChatPage` that shows who is typing: `typingByConversationId` of its state, the timers
that take an indicator away again and `typingTimeoutsRef`, which remembers them.  A timer that is
due gets its turn some time later.  A browser keeps the delay of a timer as a signed number of 32
bits; that a longer one, of more than 24 days, would be due at once is left out.

`typingSystemStep` puts the gateway in front of the page: what it emits to the page's socket arrives
in the order of emission, unless the connection is lost.  The page has one socket for its whole life
here; a page that connects again gets a new one.
-/

namespace ChatSC.Frontend

open Backend

/-! ## The page -/

/-- `TypingPresenceUpdate` -/
structure TypingPresenceUpdate where
  conversationId : JsString
  userId : JsString
  isTyping : Bool
  expiresAt : Option Date
deriving DecidableEq

/-- A timer that `window.setTimeout` has started, with the conversation of its callback. -/
structure TypingTimer where
  id : Nat
  conversationId : JsString
  due : Date
deriving DecidableEq

/-- What `ChatPage` has of typing, and the clock and the timers of the browser. -/
structure TypingPage where
  /-- `currentUser?.id` -/
  currentUserId : Option JsString
  typingByConversationId : JsString → Option TypingPresenceUpdate
  /-- `typingTimeoutsRef.current` -/
  typingTimeouts : JsString → Option Nat
  now : Date
  timers : List TypingTimer
  nextTimer : Nat

namespace TypingPage

/-- The page when it is opened. -/
def start (now : Date) : TypingPage := ⟨none, fun _ => none, fun _ => none, now, [], 1⟩

/-- `window.clearTimeout` -/
def clearTimeout (page : TypingPage) (id : Nat) : TypingPage :=
  { page with timers := page.timers.filter (·.id ≠ id) }

/-- `typingTimeoutsRef.current[conversationId] = window.setTimeout(.., timeoutMs)` -/
def setTimeout (page : TypingPage) (conversationId : JsString) (timeoutMs : Nat) : TypingPage :=
  { page with
    timers := page.timers ++ [⟨page.nextTimer, conversationId, page.now + timeoutMs⟩]
    typingTimeouts := Function.update page.typingTimeouts conversationId (some page.nextTimer)
    nextTimer := page.nextTimer + 1 }

/-- The first part of `handleTypingPresence`: the timer that is there is cleared. -/
def clearExistingTimeout (page : TypingPage) (conversationId : JsString) : TypingPage :=
  match page.typingTimeouts conversationId with
  | none => page
  | some existingTimeout =>
    { page.clearTimeout existingTimeout with
      typingTimeouts := Function.update page.typingTimeouts conversationId none }

/-- `handleTypingPresence`; the subtraction stops at zero as `Math.max` does. -/
def handleTypingPresence (page : TypingPage) (payload : TypingPresenceUpdate) : TypingPage :=
  if some payload.userId = page.currentUserId then page
  else
    let page := page.clearExistingTimeout payload.conversationId
    let page :=
      { page with
        typingByConversationId := Function.update page.typingByConversationId
          payload.conversationId (if payload.isTyping then some payload else none) }
    if payload.isTyping then
      page.setTimeout payload.conversationId
        (payload.expiresAt.getD (page.now + 4000) - page.now)
    else page

/-- The callback of a timer, which does not run a second time. -/
def onTimeout (page : TypingPage) (timer : TypingTimer) : TypingPage :=
  { page.clearTimeout timer.id with
    typingByConversationId := Function.update page.typingByConversationId timer.conversationId none
    typingTimeouts := Function.update page.typingTimeouts timer.conversationId none }

end TypingPage

/-- What happens at the page. -/
inductive TypingEvent where
  /-- `typing_presence_updated` -/
  | deliver (payload : TypingPresenceUpdate)
  | signIn (userId : Option JsString)
  | tick (now : Date)
  | timeout (id : Nat)
deriving DecidableEq

/-- The page after an event; `none` when it cannot happen. -/
def typingStep (page : TypingPage) : TypingEvent → Option TypingPage
  | .deliver payload => some (page.handleTypingPresence payload)
  | .signIn userId => some { page with currentUserId := userId }
  | .tick now => if page.now ≤ now then some { page with now := now } else none
  | .timeout id =>
    match page.timers.find? (·.id = id) with
    | none => none
    | some timer => if timer.due ≤ page.now then some (page.onTimeout timer) else none

/-! ## The page behind the gateway -/

/-- The gateway, what it has emitted to the socket `client`, and the page that has this socket. -/
structure TypingSystem where
  gateway : ChatGateway
  client : Nat
  inFlight : List TypingPresenceUpdate
  page : TypingPage

/-- A gateway with these collections that nobody is connected to, and the page that will have
    `client`. -/
def TypingSystem.start (db : ChatDb) (client : Nat) (now : Date) : TypingSystem :=
  ⟨⟨db, [], []⟩, client, [], .start now⟩

/-- The payload of an event for the page's socket. -/
def typingUpdate? (client : Nat) (delivery : SocketDelivery) : Option TypingPresenceUpdate :=
  match delivery.event with
  | .typingPresenceUpdated conversationId userId isTyping expiresAt =>
    if delivery.client = client then some ⟨conversationId, userId, isTyping, some expiresAt⟩
    else none
  | _ => none

/-- What happens at the gateway, between it and the page, or at the page. -/
inductive TypingSystemEvent where
  | gateway (event : GatewayEvent)
  /-- the page gets the oldest event -/
  | receive
  /-- the connection is lost with what is under way -/
  | lose
  /-- anything at the page but an event of the socket -/
  | page (event : TypingEvent)

/-- What happens next; `none` when the event cannot happen. -/
def typingSystemStep (env : BackendEnv) (config : AiConfig) (system : TypingSystem) :
    TypingSystemEvent → Option TypingSystem
  | .gateway event =>
    (gatewayNext env config system.gateway event).map fun (gateway, deliveries) =>
      { system with
        gateway := gateway
        inFlight := system.inFlight ++ deliveries.filterMap (typingUpdate? system.client) }
  | .receive =>
    match system.inFlight with
    | [] => none
    | payload :: rest =>
      (typingStep system.page (.deliver payload)).map fun page =>
        { system with inFlight := rest, page := page }
  | .lose => some { system with inFlight := [] }
  | .page (.deliver _) => none
  | .page event => (typingStep system.page event).map fun page => { system with page := page }

end ChatSC.Frontend
