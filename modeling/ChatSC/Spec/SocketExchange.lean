import ChatSC.Backend.SocketExchange

/-!
# An answer in pieces

However the bytes of an answer are cut into chunks, and whatever else happens on the socket, `exchange`
settles with what the bytes before the first fault amount to: the answer they begin with, or the
fault.
-/

namespace ChatSC.Spec

open Backend Native

/-- The first timeout, error or close. -/
def firstFault (inputs : List SocketInput) : Option SocketFault :=
  inputs.findSome? fun input => match input with
    | .fault fault => some fault
    | _ => none

/-- The bytes that come before it. -/
def bytesBefore : List SocketInput → List UInt8
  | [] => []
  | .connect :: inputs => bytesBefore inputs
  | .data chunk :: inputs => chunk ++ bytesBefore inputs
  | .fault _ :: _ => []

/-- What an exchange settles with, for these bytes and that fault. -/
def settlement (service : ExchangeService) (bytes : List UInt8) (fault : Option SocketFault) :
    Option (Except ProcessingError RemoteResponse) :=
  if sizeofChatResponse ≤ bytes.length then
    some (.ok (parseResponse (bytes.take sizeofChatResponse)))
  else fault.map fun fault => .error (service.refusal fault)

section Exchange

variable {service : ExchangeService} {exchange : Exchange} {inputs : List SocketInput}

theorem bufferConcat_length (chunks : List (List UInt8)) :
    bufferConcat chunks chunks.flatten.length = chunks.flatten := by
  rw [bufferConcat, Nat.sub_self, List.replicate_zero, List.append_nil, List.take_length]

/-- A call that waits for its answer. -/
structure Waiting (exchange : Exchange) : Prop where
  received_eq : exchange.received = exchange.chunks.flatten.length
  received_lt : exchange.received < sizeofChatResponse
  settled_eq : exchange.settled = false
  listening_eq : exchange.listening = true
  settlements_eq : exchange.settlements = []

/-- The answer is not complete. -/
theorem Waiting.length_lt (h : Waiting exchange) :
    exchange.chunks.flatten.length < sizeofChatResponse := by
  rw [← h.received_eq]
  exact h.received_lt

theorem Waiting.start (request : List UInt8) : Waiting (.start request) :=
  ⟨rfl, Nat.zero_lt_succ _, rfl, rfl, rfl⟩

/-- What happens on a socket without listeners does nothing. -/
theorem foldl_on_of_not_listening (h : exchange.listening = false) (inputs : List SocketInput) :
    inputs.foldl (Exchange.on service) exchange = exchange := by
  induction inputs with
  | nil => rfl
  | cons input inputs ih =>
    have hon : exchange.on service input = exchange := by
      rw [Exchange.on.eq_def, h]
      exact if_neg Bool.false_ne_true
    rw [List.foldl_cons, hon, ih]

/-- Every fault ends a call that waits. -/
theorem Waiting.onFault (h : Waiting exchange) (fault : SocketFault) :
    (exchange.onFault service fault).listening = false ∧
      (exchange.onFault service fault).settlements = [.error (service.refusal fault)] := by
  have hfail (error : ProcessingError) : (exchange.fail error).listening = false ∧
      (exchange.fail error).settlements = [.error error] := by
    rw [Exchange.fail, if_neg (by rw [h.settled_eq]; exact Bool.false_ne_true)]
    refine ⟨rfl, ?_⟩
    change exchange.settlements ++ [.error error] = _
    rw [h.settlements_eq, List.nil_append]
  cases fault with
  | timeout => exact hfail _
  | error => exact hfail _
  | close =>
    -- `close` looks at the bytes again, and there are too few
    rw [Exchange.onFault, if_pos ⟨by rw [h.settled_eq]; rfl, h.received_lt⟩]
    exact hfail _

/-- A chunk leaves a call waiting, or brings what is missing of the answer. -/
theorem Waiting.onData (h : Waiting exchange) (chunk : List UInt8) :
    let bytes := exchange.chunks.flatten ++ chunk
    if bytes.length < sizeofChatResponse then
      Waiting (exchange.onData chunk) ∧ (exchange.onData chunk).chunks.flatten = bytes
    else (exchange.onData chunk).listening = false ∧ (exchange.onData chunk).settlements =
      [.ok (parseResponse (bytes.take sizeofChatResponse))] := by
  intro bytes
  have hbytes : (exchange.chunks ++ [chunk]).flatten = bytes := by
    rw [List.flatten_append, List.flatten_singleton]
  have hreceived : exchange.received + chunk.length = bytes.length := by
    rw [h.received_eq, List.length_append]
  simp only [Exchange.onData, hreceived, h.settled_eq, Bool.false_eq_true, or_false]
  split
  · next hlt =>
    refine ⟨⟨?_, hlt, rfl, h.listening_eq, h.settlements_eq⟩, hbytes⟩
    exact congrArg List.length hbytes.symm
  · -- the chunks together are the bytes that have come
    rw [← hbytes, bufferConcat_length, h.settlements_eq]
    exact ⟨rfl, rfl⟩

/-- A call that waits settles with the bytes it has and those before the first fault. -/
theorem Waiting.foldl_on (h : Waiting exchange) (inputs : List SocketInput) :
    (inputs.foldl (Exchange.on service) exchange).settlements =
      (settlement service (exchange.chunks.flatten ++ bytesBefore inputs)
        (firstFault inputs)).toList := by
  -- on what happens; a call that has settled does nothing any more
  induction inputs generalizing exchange with
  | nil =>
    rw [bytesBefore, List.append_nil, settlement, if_neg (Nat.not_le_of_lt h.length_lt)]
    exact h.settlements_eq
  | cons input inputs ih =>
    rw [List.foldl_cons, Exchange.on.eq_def, if_pos h.listening_eq]
    cases input with
    | connect =>
      have hconnect : Waiting exchange.onConnect :=
        ⟨h.received_eq, h.received_lt, h.settled_eq, h.listening_eq, h.settlements_eq⟩
      exact ih hconnect
    | data chunk =>
      have hdata := h.onData chunk
      have hfault : firstFault (.data chunk :: inputs) = firstFault inputs := rfl
      rw [bytesBefore, hfault, ← List.append_assoc]
      dsimp only at hdata ⊢
      split at hdata
      · obtain ⟨hwaiting, hbytes⟩ := hdata
        rw [ih hwaiting, hbytes]
      · -- the answer is complete, and what comes later is not heard
        next hlen =>
        obtain ⟨hlistening, hsettlements⟩ := hdata
        have hle := Nat.le_of_not_lt hlen
        have hall : sizeofChatResponse ≤
            (exchange.chunks.flatten ++ chunk ++ bytesBefore inputs).length := by
          rw [List.length_append]
          exact Nat.le_add_right_of_le hle
        rw [foldl_on_of_not_listening hlistening, hsettlements, settlement, if_pos hall,
          List.take_append_of_le_length hle]
        rfl
    | fault fault =>
      obtain ⟨hlistening, hsettlements⟩ : (exchange.onFault service fault).listening = false ∧
          (exchange.onFault service fault).settlements = [.error (service.refusal fault)] :=
        h.onFault fault
      rw [bytesBefore, List.append_nil, settlement, if_neg (Nat.not_le_of_lt h.length_lt)]
      dsimp only
      rw [foldl_on_of_not_listening hlistening, hsettlements]
      rfl

/-- An exchange settles with what the bytes before the first fault amount to. -/
theorem settlements_exchangeAfter (service : ExchangeService) (request : List UInt8)
    (inputs : List SocketInput) :
    (exchangeAfter service request inputs).settlements =
      (settlement service (bytesBefore inputs) (firstFault inputs)).toList :=
  (Waiting.start request).foldl_on inputs

theorem promise_of_enough (request : List UInt8)
    (h : sizeofChatResponse ≤ (bytesBefore inputs).length) :
    (exchangeAfter service request inputs).promise =
      .resolved (parseResponse ((bytesBefore inputs).take sizeofChatResponse)) := by
  rw [Exchange.promise, settlements_exchangeAfter, settlement, if_pos h]
  rfl

theorem promise_of_short (request : List UInt8)
    (h : (bytesBefore inputs).length < sizeofChatResponse) :
    (exchangeAfter service request inputs).promise =
      ((firstFault inputs).map fun fault => .rejected (service.refusal fault)).getD .pending := by
  rw [Exchange.promise, settlements_exchangeAfter, settlement, if_neg (Nat.not_le_of_lt h)]
  cases firstFault inputs with
  | none => rfl
  | some fault => rfl

theorem firstFault_append {before after : List SocketInput} (h : firstFault before = none) :
    firstFault (before ++ after) = firstFault after := by
  rw [firstFault, List.findSome?_append]
  exact (congrArg (Option.or · _) h).trans (Option.none_or ..)

/-- Nothing behind a fault counts. -/
theorem bytesBefore_append_fault (before : List SocketInput) (fault : SocketFault)
    (after : List SocketInput) :
    bytesBefore (before ++ .fault fault :: after) = bytesBefore before := by
  induction before with
  | nil => rfl
  | cons input before ih =>
    cases input with
    | connect => exact ih
    | data chunk => exact congrArg (chunk ++ ·) ih
    | fault fault' => rfl

/-- The first fault rejects, whatever comes behind it. -/
theorem promise_of_fault (request : List UInt8) {before : List SocketInput}
    (hshort : (bytesBefore before).length < sizeofChatResponse) (hbefore : firstFault before = none)
    (fault : SocketFault) (after : List SocketInput) :
    (exchangeAfter service request (before ++ .fault fault :: after)).promise =
      .rejected (service.refusal fault) := by
  rw [promise_of_short request (by rwa [bytesBefore_append_fault]), firstFault_append hbefore]
  rfl

/-- **The answer does not depend on its pieces**: an exchange settles at most once.  With enough bytes
    before the first fault it resolves with the answer that they begin with, otherwise it is pending
    up to the fault and rejected by it, whatever comes later; and with the same first bytes and the
    same first fault it does the same. -/
theorem exchangeAfter_reassembles (service : ExchangeService) (request : List UInt8)
    (inputs : List SocketInput) :
    (exchangeAfter service request inputs).settlements.length ≤ 1 ∧
      (sizeofChatResponse ≤ (bytesBefore inputs).length →
        (exchangeAfter service request inputs).promise =
          .resolved (parseResponse ((bytesBefore inputs).take sizeofChatResponse))) ∧
      ((bytesBefore inputs).length < sizeofChatResponse →
        (firstFault inputs = none →
          (exchangeAfter service request inputs).promise = .pending) ∧
        ∀ before fault after, inputs = before ++ .fault fault :: after → firstFault before = none →
          (exchangeAfter service request before).promise = .pending ∧
          (exchangeAfter service request (before ++ [.fault fault])).promise =
            .rejected (service.refusal fault) ∧
          (exchangeAfter service request inputs).promise = .rejected (service.refusal fault)) ∧
      ∀ inputs', (bytesBefore inputs').take sizeofChatResponse =
          (bytesBefore inputs).take sizeofChatResponse →
        (sizeofChatResponse ≤ (bytesBefore inputs).length ∨ firstFault inputs' = firstFault inputs) →
          (exchangeAfter service request inputs').settlements =
            (exchangeAfter service request inputs).settlements := by
  refine ⟨?_, promise_of_enough request, fun hshort => ⟨fun hnone => ?_, ?_⟩,
    fun inputs' htake hor => ?_⟩
  · rw [settlements_exchangeAfter]
    exact Option.length_toList_le
  · rw [promise_of_short request hshort, hnone]
    rfl
  · rintro before fault after rfl hbefore
    rw [bytesBefore_append_fault] at hshort
    refine ⟨?_, promise_of_fault request hshort hbefore fault [],
      promise_of_fault request hshort hbefore fault after⟩
    rw [promise_of_short request hshort, hbefore]
    rfl
  · -- as many bytes are enough, or too few, in both
    have hlen := congrArg List.length htake
    rw [List.length_take, List.length_take] at hlen
    rw [settlements_exchangeAfter, settlements_exchangeAfter, settlement, settlement, htake]
    by_cases henough : sizeofChatResponse ≤ (bytesBefore inputs).length
    · rw [if_pos (by omega), if_pos henough]
    · rw [if_neg (by omega), if_neg henough, hor.resolve_left henough]

end Exchange

/-! ## The exchanges with the daemon -/

/-- What `SocketEvent`s bring of the bytes to come. -/
def socketInputs : (incoming : List UInt8) → List SocketEvent → List SocketInput
  | _, [] => []
  | incoming, .data count :: events =>
    .data (incoming.take count) :: socketInputs (incoming.drop count) events
  | incoming, .timeout :: events => .fault .timeout :: socketInputs incoming events
  | incoming, .error :: events => .fault .error :: socketInputs incoming events
  | incoming, .close :: events => .fault .close :: socketInputs incoming events

/-- `exchangeFrom` of a service. -/
def exchangeFromOf : ExchangeService → (incoming received : List UInt8) → List SocketEvent →
    Promise RemoteResponse
  | .chatEncryption => exchangeFrom
  | .authProcessing => AuthProcessing.exchangeFrom

theorem exchangeFromOf_data (service : ExchangeService) (incoming received : List UInt8)
    (count : Nat) (events : List SocketEvent) :
    exchangeFromOf service incoming received (.data count :: events) =
      if (received ++ incoming.take count).length < sizeofChatResponse then
        exchangeFromOf service (incoming.drop count) (received ++ incoming.take count) events
      else .resolved (parseResponse ((received ++ incoming.take count).take sizeofChatResponse)) := by
  cases service <;> rfl

/-- Two chunks are as good as one. -/
theorem promise_data_data (service : ExchangeService) (request chunk chunk' : List UInt8)
    (inputs : List SocketInput) :
    (exchangeAfter service request (.data chunk :: .data chunk' :: inputs)).promise =
      (exchangeAfter service request (.data (chunk ++ chunk') :: inputs)).promise := by
  simp only [Exchange.promise, settlements_exchangeAfter, bytesBefore, List.append_assoc]
  rfl

/-- The handlers settle an exchange with the daemon as `exchangeFrom` says. -/
theorem promise_exchangeAfter_socketInputs (service : ExchangeService)
    (request incoming received : List UInt8) (events : List SocketEvent)
    (h : received.length < sizeofChatResponse) :
    (exchangeAfter service request (.data received :: socketInputs incoming events)).promise =
      exchangeFromOf service incoming received events := by
  -- on the events; the bytes received are those of the first chunk
  induction events generalizing incoming received with
  | nil =>
    rw [promise_of_short request (by rwa [socketInputs, bytesBefore, bytesBefore, List.append_nil])]
    cases service <;> rfl
  | cons event events ih =>
    have hfault (fault : SocketFault) (rest : List SocketInput) :
        (exchangeAfter service request (.data received :: .fault fault :: rest)).promise =
          .rejected (service.refusal fault) := by
      rw [promise_of_short request (by rwa [bytesBefore, bytesBefore, List.append_nil])]
      rfl
    cases event with
    | data count =>
      rw [exchangeFromOf_data, socketInputs, promise_data_data]
      split
      · next hlt => exact ih _ _ hlt
      · next hlen =>
        have hle := Nat.le_of_not_lt hlen
        rw [promise_of_enough request, bytesBefore, List.take_append_of_le_length hle]
        rw [bytesBefore, List.length_append]
        exact Nat.le_add_right_of_le hle
    | timeout => rw [socketInputs, hfault]; cases service <;> rfl
    | error => rw [socketInputs, hfault]; cases service <;> rfl
    | close => rw [socketInputs, hfault]; cases service <;> rfl

/-- The handlers settle an exchange with the daemon as the model of `exchange` does. -/
theorem promise_exchangeAfter_reply (service : ExchangeService) (io : ExchangeIo)
    (request : ChatRequest) :
    (exchangeAfter service request.toBytes
        (socketInputs (processorReply io.deviceIo io.driver request).2.toBytes io.events)).promise =
      match service with
      | .chatEncryption => exchange io request
      | .authProcessing => AuthProcessing.exchange io request := by
  have hnothing (inputs : List SocketInput) :
      (exchangeAfter service request.toBytes inputs).promise =
        (exchangeAfter service request.toBytes (.data [] :: inputs)).promise := by
    simp only [Exchange.promise, settlements_exchangeAfter]
    rfl
  rw [hnothing, promise_exchangeAfter_socketInputs service _ _ [] io.events (by decide)]
  cases service <;> rfl

end ChatSC.Spec
