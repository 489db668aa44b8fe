import ChatSC.Backend.AuthProcessing

/-!
# The handlers of `exchange` (`chat-encryption.service.ts`, `auth-processing.service.ts`)

Both services have this `exchange`; what they reject with are texts of their own.  `cleanup` takes all
handlers off the socket, so what still happens there afterwards finds none of them.

`settlements` are the calls of `resolve` and `reject` in their order; a promise takes the first one and
ignores all others.
-/

namespace ChatSC.Backend

open JsString Native

/-- The services with an `exchange`. -/
inductive ExchangeService where
  | chatEncryption
  | authProcessing
deriving DecidableEq

/-- The events that `exchange` fails on. -/
inductive SocketFault where
  | timeout
  | error
  | close
deriving DecidableEq

/-- An event on the socket, with its data. -/
inductive SocketInput where
  | connect
  | data (chunk : List UInt8)
  | fault (fault : SocketFault)
deriving DecidableEq

/-- What the handlers of `ChatEncryptionService` reject with. -/
def chatEncryptionRefusal : SocketFault → ProcessingError
  | .timeout => .chat "REVERSE_ENCRYPTION_TIMEOUT"
      (js "Hết thời gian chờ dịch vụ mã hoá ngược phản hồi")
  | .error => .chat "REVERSE_ENCRYPTION_CONNECTION_FAILED"
      (js "Không kết nối được tới dịch vụ mã hoá ngược")
  | .close => .chat "REVERSE_ENCRYPTION_IO_FAILED"
      (js "Kết nối tới dịch vụ mã hoá ngược bị đóng sớm")

/-- What the handlers of `AuthProcessingService` reject with. -/
def authProcessingRefusal : SocketFault → ProcessingError
  | .timeout => .chat "LOCAL_AUTH_SHA1_TIMEOUT"
      (js "Hết thời gian chờ dịch vụ SHA1 cho local auth phản hồi")
  | .error => .chat "LOCAL_AUTH_SHA1_CONNECTION_FAILED"
      (js "Không kết nối được tới dịch vụ SHA1 cho local auth")
  | .close => .chat "LOCAL_AUTH_SHA1_IO_FAILED"
      (js "Kết nối tới dịch vụ SHA1 cho local auth bị đóng sớm")

/-- What the handlers of a service reject with. -/
def ExchangeService.refusal : ExchangeService → SocketFault → ProcessingError
  | .chatEncryption => chatEncryptionRefusal
  | .authProcessing => authProcessingRefusal

/-- `Buffer.concat(chunks, totalLength)`: filled with zeros, or cut off. -/
def bufferConcat (chunks : List (List UInt8)) (totalLength : Nat) : List UInt8 :=
  (chunks.flatten ++ List.replicate (totalLength - chunks.flatten.length) 0).take totalLength

/-- The variables of a call of `exchange`, and what it has done to the socket and the promise. -/
structure Exchange where
  request : List UInt8
  chunks : List (List UInt8)
  received : Nat
  settled : Bool
  listening : Bool
  written : List (List UInt8)
  settlements : List (Except ProcessingError RemoteResponse)
deriving DecidableEq

namespace Exchange

/-- `exchange` up to `socket.connect`. -/
def start (request : List UInt8) : Exchange where
  request := request
  chunks := []
  received := 0
  settled := false
  listening := true
  written := []
  settlements := []

/-- `cleanup` -/
def cleanup (exchange : Exchange) : Exchange := { exchange with listening := false }

/-- `fail` -/
def fail (exchange : Exchange) (error : ProcessingError) : Exchange :=
  if exchange.settled then exchange
  else
    let exchange := { exchange with settled := true }.cleanup
    { exchange with settlements := exchange.settlements ++ [.error error] }

/-- The handler of `connect`. -/
def onConnect (exchange : Exchange) : Exchange :=
  { exchange with written := exchange.written ++ [exchange.request] }

/-- The handler of `data`. -/
def onData (exchange : Exchange) (chunk : List UInt8) : Exchange :=
  let exchange :=
    { exchange with
      chunks := exchange.chunks ++ [chunk]
      received := exchange.received + chunk.length }
  if exchange.received < sizeofChatResponse ∨ exchange.settled then exchange
  else
    let exchange := { exchange with settled := true }
    let data := (bufferConcat exchange.chunks exchange.received).take sizeofChatResponse
    let exchange := exchange.cleanup
    { exchange with settlements := exchange.settlements ++ [.ok (parseResponse data)] }

/-- The handlers of `timeout`, `error` and `close`. -/
def onFault (service : ExchangeService) (exchange : Exchange) : SocketFault → Exchange
  | .timeout => exchange.fail (service.refusal .timeout)
  | .error => exchange.fail (service.refusal .error)
  | .close =>
    if !exchange.settled ∧ exchange.received < sizeofChatResponse then
      exchange.fail (service.refusal .close)
    else exchange

/-- What happens on the socket; without listeners nothing is done. -/
def on (service : ExchangeService) (exchange : Exchange) (input : SocketInput) : Exchange :=
  if exchange.listening then
    match input with
    | .connect => exchange.onConnect
    | .data chunk => exchange.onData chunk
    | .fault fault => exchange.onFault service fault
  else exchange

/-- The promise of the call. -/
def promise (exchange : Exchange) : Promise RemoteResponse :=
  match exchange.settlements with
  | [] => .pending
  | .ok response :: _ => .resolved response
  | .error error :: _ => .rejected error

end Exchange

/-- A call of `exchange` after what has happened on its socket. -/
def exchangeAfter (service : ExchangeService) (request : List UInt8) (inputs : List SocketInput) :
    Exchange :=
  inputs.foldl (Exchange.on service) (.start request)

end ChatSC.Backend
