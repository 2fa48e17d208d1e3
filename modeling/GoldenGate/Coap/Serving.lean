import GoldenGate.Coap.Endpoint
import GoldenGate.Coap.Requests
import GoldenGate.Coap.RoundTrip

/-! # Both sides of an endpoint

A datagram goes to the server side of the endpoint or to its client side, by the class of its code. An
empty message has the code 0.00, which is in the class of the requests, so that it is answered as a
request without a method is, and does not get to the request that it acknowledges.
-/

namespace GoldenGate.Coap

open Memory Grammar

/-! ## Requests -/

namespace RequestHandlers

variable {η φ : Type}

theorem createResponse_ok {datagram : List UInt8} {message : Message}
    (accepted : createFromDatagram datagram = .ok (.ok message)) (code : UInt8) :
    ∃ response, createResponse message code = .ok (some response) ∧ response.getCode = .ok code := by
  obtain ⟨wire, wireBytes, rfl⟩ := wire_of_accepted accepted
  obtain ⟨-, -, messageId, token, -⟩ := accessors_of_bytes wireBytes
  have short : wire.token.length ≤ maxTokenLength := by
    cases wireBytes with
    | mk _ _ short _ _ => exact short
  obtain ⟨_, response, -, created, data⟩ := create_data code .ack (UInt16.ofNat wire.messageId) wire.token short
    (fun o (member : o ∈ []) => nomatch member) none 0 (Nat.zero_le _)
  unfold createResponse
  rw [token, ok_bind, messageId, ok_bind, created]
  refine ⟨response, rfl, ?_⟩
  rw [Message.getCode, data]
  rfl

theorem respond_ok {datagram : List UInt8} {message : Message}
    (accepted : createFromDatagram datagram = .ok (.ok message)) (result : HandlerResult) :
    ∃ response, respond message result = .ok response := by
  unfold respond
  split
  · exact ⟨_, rfl⟩
  · exact ⟨_, rfl⟩
  · exact (createResponse_ok accepted _).imp' some fun _ => And.left
  · exact (createResponse_ok accepted _).imp' some fun _ => And.left

theorem findHandler_ok {datagram : List UInt8} {message : Message}
    (accepted : createFromDatagram datagram = .ok (.ok message)) (nodes : List (RequestHandlerNode η)) :
    ∃ found, findHandler message nodes = .ok found ∧ ((∀ node ∈ nodes, node.isFor message ≠ .ok true) → found = none) := by
  induction nodes with
  | nil => exact ⟨none, rfl, fun _ => rfl⟩
  | cons node nodes ih =>
      obtain ⟨matched, isMatched⟩ := isFor_ok accepted node
      unfold findHandler
      rw [isMatched, ok_bind]
      cases matched with
      | true => exact ⟨_, rfl, fun none => absurd isMatched (none node List.mem_cons_self)⟩
      | false =>
          obtain ⟨found, isFound, none⟩ := ih
          exact ⟨found, isFound, fun others => none (fun other member => others other (List.mem_cons_of_mem _ member))⟩

/-- A handler is asked, or none. -/
theorem onRequest_ok (self : RequestHandlers η φ) (filter : φ → HandlerResult) {handle : η → HandlerResult}
    (returns : ∀ handler, handle handler ≠ .success) {datagram : List UInt8} {message : Message} {code : UInt8}
    (accepted : createFromDatagram datagram = .ok (.ok message)) (isCode : message.getCode = .ok code) :
    ∃ asked response, self.onRequest filter handle message = .ok (asked, response) := by
  obtain ⟨found, isFound, -⟩ := findHandler_ok accepted self.handlers
  unfold onRequest
  rw [isFound, ok_bind]
  simp only
  split
  · obtain ⟨response, responds, -⟩ := createResponse_ok accepted codeNotFound
    rw [responds]
    exact ⟨none, some response, rfl⟩
  · rename_i node _
    rw [isCode, ok_bind]
    split
    · obtain ⟨response, responds⟩ := respond_ok accepted (.code codeMethodNotAllowed.toNat)
      rw [responds]
      exact ⟨none, response, rfl⟩
    · cases filterRequest filter self.requestFilters with
      | success =>
          obtain ⟨response, responds⟩ := respond_ok accepted (handle node.handler)
          simp only
          rw [assert_of (returns node.handler), ok_bind, responds]
          exact ⟨_, response, rfl⟩
      | response | code | failed =>
          obtain ⟨response, responds⟩ := respond_ok accepted _
          simp only
          rw [responds]
          exact ⟨none, response, rfl⟩

theorem methodFlag_allowed {code : UInt8} (isMethod : 1 ≤ code ∧ code ≤ 4) : ¬ flagsAllowAll &&& methodFlag code = 0 := by
  obtain ⟨low, high⟩ := isMethod
  rw [UInt8.le_iff_toNat_le] at low high
  have some : code.toNat = 1 ∨ code.toNat = 2 ∨ code.toNat = 3 ∨ code.toNat = 4 := by
    change 1 ≤ code.toNat at low
    change code.toNat ≤ 4 at high
    omega
  rcases some with same | same | same | same
  · rw [show code = 1 from UInt8.toNat_inj.mp same]
    decide
  · rw [show code = 2 from UInt8.toNat_inj.mp same]
    decide
  · rw [show code = 3 from UInt8.toNat_inj.mp same]
    decide
  · rw [show code = 4 from UInt8.toNat_inj.mp same]
    decide

/-- The default handler is asked when no other one is registered for the path. -/
theorem onRequest_default (self : RequestHandlers η φ) {filter : φ → HandlerResult} {handle : η → HandlerResult}
    {default : η} (isDefault : self.defaultHandler = some default) (waits : handle default = .failed .wouldBlock)
    {datagram : List UInt8} {message : Message} {code : UInt8}
    (accepted : createFromDatagram datagram = .ok (.ok message)) (isCode : message.getCode = .ok code)
    (isMethod : 1 ≤ code ∧ code ≤ 4) (none : ∀ node ∈ self.handlers, node.isFor message ≠ .ok true)
    (passes : filterRequest filter self.requestFilters = .success) :
    self.onRequest filter handle message = .ok (some default, Option.none) := by
  obtain ⟨found, isFound, notFound⟩ := findHandler_ok accepted self.handlers
  obtain rfl := notFound none
  have allowed := methodFlag_allowed isMethod
  unfold onRequest
  rw [isFound, ok_bind, isDefault]
  simp only [Option.map_some, Option.none_or, isCode, ok_bind, if_neg allowed, passes, waits]
  rfl

end RequestHandlers

/-! ## Datagrams -/

/-- `GG_CoapEndpoint`, with the message ids that its requests were given. -/
structure ServingEndpoint (η φ : Type) where
  client : EndpointRun
  messageIdCounter : UInt16
  messageIds : List (Nat × UInt16)
  handlers : RequestHandlers η φ
  deriving Repr, DecidableEq

/-- What happens to an endpoint. A datagram comes with what the filters and handlers return if they are
    asked. -/
inductive ServingStep (η φ : Type) where
  | client (step : EndpointStep)
  | datagram (data : List UInt8) (filter : φ → HandlerResult) (handle : η → HandlerResult)

namespace ServingEndpoint

variable {η φ : Type}

/-- `GG_CoapEndpoint_PutData`, with the handler that is asked and the response that is sent. -/
def putData (self : ServingEndpoint η φ) (filter : φ → HandlerResult) (handle : η → HandlerResult)
    (data : List UInt8) : Access (ServingEndpoint η φ × Option η × Option Message) := do
  match ← createFromDatagram data with
  | .error _ => return (self, none, none)
  | .ok message => do
      let code ← message.getCode
      if messageCodeClass code = codeClassRequest then
        let (asked, response) ← self.handlers.onRequest filter handle message
        return (self, asked, response)
      else
        let type ← message.getType
        let token ← message.getToken
        return ({ self with client := self.client.onResponse ⟨type, code, token⟩ }, none, none)

/-- A request takes the next message id. -/
def step (self : ServingEndpoint η φ) : ServingStep η φ → Access (ServingEndpoint η φ)
  | .client step => do
      let client ← self.client.step step
      match step with
      | .sendRequest .. =>
          return { self with
            client := client
            messageIdCounter := self.messageIdCounter + 1
            messageIds := self.messageIds ++ [(client.endpoint.tokenCounter, self.messageIdCounter)] }
      | _ => return { self with client := client }
  | .datagram data filter handle => do return (← self.putData filter handle data).1

def run (self : ServingEndpoint η φ) (steps : List (ServingStep η φ)) : Access (ServingEndpoint η φ) :=
  steps.foldlM step self

/-- An endpoint that was just created. -/
def create (tokenPrefix : List UInt8) (tokenCounter : Nat) (messageIdCounter : UInt16) (connectionSink : Bool)
    (handlers : RequestHandlers η φ) : ServingEndpoint η φ :=
  ⟨EndpointRun.create tokenPrefix tokenCounter connectionSink, messageIdCounter, [], handlers⟩

/-- The message has the id of a request that waits for its answer. -/
structure Awaits (self : ServingEndpoint η φ) (context : CoapRequestContext) (messageId : Nat) : Prop where
  pending : context ∈ self.client.endpoint.requests
  waiting : context.state = .readyToSend ∨ context.state = .waitingForAck
  sameId : ∃ id, (context.handle, id) ∈ self.messageIds ∧ id.toNat = messageId

/-- What the listener of a request is told of an empty message. -/
def answerEvent (type : MessageType) (handle : Nat) : EndpointEvent :=
  if type = .rst then .error handle .coapReset else .ack handle

/-- An empty message does not get to a handler and has no response, and as an ACK or RST it is the answer
    to the request with its message id. -/
def HandlesEmpty (self : ServingEndpoint η φ) (filter : φ → HandlerResult) (handle : η → HandlerResult)
    (data : List UInt8) : Prop :=
  ∃ self', self.putData filter handle data = .ok (self', none, none) ∧
    ∀ message type messageId, createFromDatagram data = .ok (.ok message) → message.getType = .ok type →
      message.getMessageId = .ok messageId → type = .ack ∨ type = .rst →
      ∀ context, self.Awaits context messageId →
        answerEvent type context.handle ∈ self'.client.history.drop self.client.history.length

end ServingEndpoint

namespace RequestHandlers

variable {η φ : Type}

/-- An empty message is no method that a handler allows, so that it is refused. -/
theorem onRequest_empty (self : RequestHandlers η φ) (filter : φ → HandlerResult) (handle : η → HandlerResult)
    {datagram : List UInt8} {message : Message} (accepted : createFromDatagram datagram = .ok (.ok message))
    (isEmpty : message.getCode = .ok 0) :
    ∃ response, self.onRequest filter handle message = .ok (none, some response) := by
  obtain ⟨found, isFound, -⟩ := findHandler_ok accepted self.handlers
  unfold onRequest
  rw [isFound, ok_bind]
  dsimp only
  cases found.or (self.defaultHandler.map fun handler => ⟨[slash], flagsAllowAll, handler⟩) with
  | none =>
      obtain ⟨response, responds, -⟩ := createResponse_ok accepted codeNotFound
      exact ⟨response, by rw [responds]; rfl⟩
  | some node =>
      have noMethod : node.flags &&& methodFlag 0 = 0 := UInt32.and_zero
      obtain ⟨response, responds, -⟩ := createResponse_ok accepted
        (if codeMethodNotAllowed.toNat ≤ 0xFF then UInt8.ofNat codeMethodNotAllowed.toNat else codeInternalServerError)
      refine ⟨response, ?_⟩
      dsimp only
      rw [isEmpty, ok_bind, if_pos noMethod, respond, responds]
      rfl

end RequestHandlers

namespace ServingEndpoint

variable {η φ : Type}

/-- The code of a message is the second byte of its datagram. -/
theorem getCode_of_accepted {data : List UInt8} {message : Message} {code : UInt8} (isCode : data[1]? = some code)
    (accepted : createFromDatagram data = .ok (.ok message)) : message.getCode = .ok code := by
  obtain ⟨wire, wireBytes, rfl⟩ := wire_of_accepted accepted
  rw [Message.getCode, load, isCode]

/-- An empty message has a response. -/
theorem putData_empty (self : ServingEndpoint η φ) (filter : φ → HandlerResult) (handle : η → HandlerResult)
    {data : List UInt8} {message : Message} (isEmpty : data[1]? = some 0)
    (accepted : createFromDatagram data = .ok (.ok message)) :
    ∃ response, self.putData filter handle data = .ok (self, none, some response) := by
  have isCode := getCode_of_accepted isEmpty accepted
  obtain ⟨response, responds⟩ := self.handlers.onRequest_empty filter handle accepted isCode
  refine ⟨response, ?_⟩
  unfold putData
  rw [accepted, ok_bind]
  dsimp only
  rw [isCode, ok_bind, if_pos (by decide), responds]
  rfl

/-- Only a datagram that is no message is left alone. -/
theorem handlesEmpty_iff (self : ServingEndpoint η φ) (filter : φ → HandlerResult) (handle : η → HandlerResult)
    {data : List UInt8} (isEmpty : data[1]? = some 0) :
    self.HandlesEmpty filter handle data ↔ ∃ error, createFromDatagram data = .ok (.error error) := by
  rcases createFromDatagram_sound data with ⟨error, parsed⟩ | ⟨wire, wireBytes⟩
  · refine ⟨fun _ => ⟨error, parsed⟩, fun _ => ⟨self, ?_, ?_⟩⟩
    · rw [putData, parsed]
      rfl
    · intro message _ _ accepted
      rw [parsed] at accepted
      exact nomatch Except.ok.inj accepted
  · have parsed := createFromDatagram_complete wireBytes
    obtain ⟨response, puts⟩ := self.putData_empty filter handle isEmpty parsed
    constructor
    · rintro ⟨self', isPut, -⟩
      rw [puts] at isPut
      exact nomatch (Prod.mk.inj (Prod.mk.inj (Except.ok.inj isPut)).2).2
    · rintro ⟨error, rejected⟩
      rw [parsed] at rejected
      exact nomatch Except.ok.inj rejected

/-- An endpoint without handlers. -/
def withoutHandlers : ServingEndpoint Unit Unit := create [] 0 7 true ⟨[], [], none⟩

/-- An empty ACK, for the message id 7. -/
def emptyAck : List UInt8 := [0x60, 0, 0, 7]

/-- A datagram that is too short. -/
theorem handlesEmpty_short :
    withoutHandlers.HandlesEmpty (fun _ => .success) (fun _ => .code 69) [0x60, 0, 0] :=
  (handlesEmpty_iff withoutHandlers _ _ rfl).mpr ⟨.invalidFormat, by decide⟩

/-- The ACK of a request that was sent gets a response. -/
theorem emptyAck_refused : ∃ self context,
    withoutHandlers.run [.client (.sendRequest 2000 4), .client (.resume .success)] = .ok self ∧
      self.Awaits context 7 ∧ ¬ self.HandlesEmpty (fun _ => .success) (fun _ => .code 69) emptyAck := by
  have refused (self : ServingEndpoint Unit Unit) :
      ¬ self.HandlesEmpty (fun _ => .success) (fun _ => .code 69) emptyAck := by
    rintro ⟨self', isPut, -⟩
    have accepted : createFromDatagram emptyAck = .ok (.ok ⟨emptyAck, 4, 0⟩) := by decide
    obtain ⟨response, puts⟩ := self.putData_empty (fun _ => .success) (fun _ => .code 69) rfl accepted
    rw [isPut] at puts
    exact nomatch (Prod.mk.inj (Prod.mk.inj (Except.ok.inj puts)).2).2
  refine ⟨_, ⟨1, [0, 0, 0, 0], .waitingForAck, some true, 2000, 0, 4⟩, rfl, ?_, refused _⟩
  exact ⟨by decide, .inr rfl, 7, by decide, rfl⟩

end ServingEndpoint

end GoldenGate.Coap
