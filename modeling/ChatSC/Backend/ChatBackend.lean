import ChatSC.Backend.ChatAttachments
import ChatSC.Backend.ChatGateway

/-!
# The chat module on one database

The gateway with its sockets and tasks, and the calls of the attachment service, which come over
HTTP and emit nothing, on the same collections.
-/

namespace ChatSC.Backend

/-- The gateway, and the calls of the attachment service made so far. -/
structure ChatBackend where
  gateway : ChatGateway
  calls : List AttachmentCall

/-- The backend when it starts, on empty collections. -/
def ChatBackend.start : ChatBackend := ⟨⟨.start [], [], []⟩, []⟩

/-- Something at the gateway, a new call, or the next step of one that is under way. -/
inductive ChatBackendEvent where
  | gateway (event : GatewayEvent)
  | call (call : AttachmentCall)
  | step (index : Nat) (input : CallInput)

/-- One step; `none` when the event cannot happen. -/
def chatBackendStep (env : BackendEnv) (config : AiConfig) (system : ChatBackend) :
    ChatBackendEvent → Option ChatBackend
  | .gateway event => do
    let gateway ← gatewayStep env config system.gateway event
    return { system with gateway := gateway }
  | .call call =>
    if call.isStart then some { system with calls := system.calls ++ [call] } else none
  | .step index input => do
    let call ← system.calls[index]?
    let (db, call) ← attachmentCallStep env system.gateway.db call input
    return ⟨{ system.gateway with db := db }, system.calls.set index call⟩

end ChatSC.Backend
