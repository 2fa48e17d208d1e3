import GoldenGate.Coap.Serving
import GoldenGate.Common.Io
import GoldenGate.Lib.Runs

/-! # The CoAP splitter

The embedding of `gg_coap_splitter.c`: three ports, and an endpoint at the side. Where a datagram goes
is decided from its first bytes. The splitter is the default handler of the endpoint, so that requests
which the endpoint does not handle come back to it. What is put to the sinks of the ports is told;
what the sinks return is not looked at.
-/

namespace GoldenGate.Coap

open Memory

inductive SplitterPort where
  | top
  | bottom
  | side
  deriving Repr, DecidableEq

/-- A datagram that is put to the sink of a port. -/
structure SplitterPut where
  port : SplitterPort
  datagram : List UInt8
  metadata : Option BufferMetadata
  deriving Repr, DecidableEq

/-- `GG_CoapSplitter`: whether the top and bottom ports have sinks, and where responses are sent to.
    The sink of the side port is the endpoint. -/
structure CoapSplitter where
  topSink : Bool
  bottomSink : Bool
  topResponseMetadata : SocketAddress
  bottomResponseMetadata : SocketAddress
  deriving Repr, DecidableEq

/-- `GG_CoapSplitter_DatagramIsRequest`. -/
def datagramIsRequest (data : List UInt8) : Access Bool :=
  if data.length ≥ 4 then do
    let coapCode ← load data 1
    return coapCode ≥ 1 && coapCode ≤ 4
  else return false

/-- `GG_CoapSplitter_GetTokenFromDatagram`: where the token is. -/
def getTokenFromDatagram (data : List UInt8) (tokenSize : Nat) : Access (Option Nat) := do
  if data.length < 4 + tokenSize then return none
  let first ← load data 0
  let tokenLength := first.toNat &&& 0xF
  if tokenLength < tokenSize then return none
  return some 4

/-- Where a datagram that arrives at the bottom goes. -/
inductive BottomRoute where
  | requestToSide
  | responseToSide
  | responseToTop
  deriving Repr, DecidableEq

/-- The decision of `GG_CoapSplitter_Bottom_PutData`. -/
def routeFromBottom (tokenPrefix data : List UInt8) : Access BottomRoute := do
  if ← datagramIsRequest data then return .requestToSide
  if tokenPrefix.length = 0 then return .responseToTop
  match ← getTokenFromDatagram data tokenPrefix.length with
  | none => return .responseToTop
  | some token => do
      -- `memcmp`
      let start ← readBytes (data.drop token) tokenPrefix.length
      if start = tokenPrefix then return .responseToSide
      return .responseToTop

namespace CoapSplitter

/-- `GG_CoapSplitter_UpdateResponseMetadata`. -/
def updateResponseMetadata (newMetadata : Option BufferMetadata) (existing : SocketAddress) : SocketAddress :=
  match newMetadata with
  | some (.sourceSocketAddress socketAddress) => socketAddress
  | _ => existing

/-- The metadata of responses, once there was a request. -/
def responseMetadata (socketAddress : SocketAddress) : Option BufferMetadata :=
  if socketAddress.port ≠ 0 then some (.destinationSocketAddress socketAddress) else none

def toTop (self : CoapSplitter) (data : List UInt8) (metadata : Option BufferMetadata) : List SplitterPut :=
  if self.topSink then [⟨.top, data, metadata⟩] else []

def toBottom (self : CoapSplitter) (data : List UInt8) (metadata : Option BufferMetadata) : List SplitterPut :=
  if self.bottomSink then [⟨.bottom, data, metadata⟩] else []

/-- `GG_CoapSplitter_Top_PutData`. -/
def topPutData (self : CoapSplitter) (data : List UInt8) (metadata : Option BufferMetadata) :
    Access (CoapSplitter × List SplitterPut) := do
  if self.bottomSink then
    if ← datagramIsRequest data then
      let self := { self with topResponseMetadata := updateResponseMetadata metadata self.topResponseMetadata }
      return (self, self.toBottom data none)
    else return (self, self.toBottom data (responseMetadata self.bottomResponseMetadata))
  else return (self, [])

/-- `GG_CoapSplitter_Bottom_PutData`. -/
def bottomPutData (self : CoapSplitter) (tokenPrefix data : List UInt8) (metadata : Option BufferMetadata) :
    Access (CoapSplitter × List SplitterPut) := do
  match ← routeFromBottom tokenPrefix data with
  | .requestToSide =>
      let self := { self with bottomResponseMetadata := updateResponseMetadata metadata self.bottomResponseMetadata }
      return (self, [⟨.side, data, metadata⟩])
  | .responseToSide => return (self, [⟨.side, data, metadata⟩])
  | .responseToTop => return (self, self.toTop data (responseMetadata self.topResponseMetadata))

/-- `GG_CoapSplitter_Side_PutData`. -/
def sidePutData (self : CoapSplitter) (data : List UInt8) (metadata : Option BufferMetadata) : List SplitterPut :=
  self.toBottom data metadata

end CoapSplitter

/-! ## Runs -/

/-- The handlers of the endpoint: the splitter, and those of its own. -/
inductive SideHandler (η : Type) where
  | splitter
  | own (handler : η)
  deriving Repr, DecidableEq

/-- A splitter and its endpoint, the tokens of the requests that the endpoint has sent, and those of
    the requests that came to the top port. -/
structure SplitterRun (η φ : Type) where
  splitter : CoapSplitter
  tokenPrefix : List UInt8
  tokenCounter : UInt64
  messageIdCounter : UInt16
  handlers : RequestHandlers (SideHandler η) φ
  sideTokens : List (List UInt8)
  topTokens : List (List UInt8)

/-- A datagram arrives at a port, with what the filters and handlers return if it is a request; the
    endpoint sends a request; the sinks of the ports are set. -/
inductive SplitterStep (η φ : Type) where
  | top (data : List UInt8) (metadata : Option BufferMetadata)
  | bottom (data : List UInt8) (metadata : Option BufferMetadata) (filter : φ → HandlerResult) (handle : η → HandlerResult)
  | side (data : List UInt8) (metadata : Option BufferMetadata)
  | sendRequest (method : UInt8) (options : List MessageOption) (payload : List UInt8)
  | setSinks (top bottom : Bool)

/-- The token of a datagram, if it is long enough for it. -/
def tokenOf : List UInt8 → Option (List UInt8)
  | first :: _ :: _ :: _ :: rest =>
      let tokenLength := first.toNat % 16
      if tokenLength ≤ maxTokenLength ∧ tokenLength ≤ rest.length then some (rest.take tokenLength) else none
  | _ => none

namespace SplitterRun

variable {η φ : Type}

/-- `GG_CoapSplitter_OnRequest` sends the request to the top, and returns `GG_ERROR_WOULD_BLOCK`. -/
def handleRequest (handle : η → HandlerResult) : SideHandler η → HandlerResult
  | .splitter => .failed .wouldBlock
  | .own handler => handle handler

/-- `GG_CoapEndpoint_PutData`. Responses are left to the client side of the endpoint. -/
def endpointPutData (self : SplitterRun η φ) (data : List UInt8) (metadata : Option BufferMetadata)
    (filter : φ → HandlerResult) (handle : η → HandlerResult) : Access (List SplitterPut) := do
  match ← createFromDatagram data with
  | .error _ => return []
  | .ok message => do
      let code ← message.getCode
      if messageCodeClass code ≠ codeClassRequest then return []
      let (asked, response) ← self.handlers.onRequest filter (handleRequest handle) message
      let forwarded := match asked with
        | some .splitter => self.splitter.toTop message.toDatagram none
        | _ => []
      let responded := match response with
        | none => []
        | some response =>
            let metadata := match metadata with
              | some (.sourceSocketAddress socketAddress) => some (.destinationSocketAddress socketAddress)
              | _ => none
            self.splitter.sidePutData response.toDatagram metadata
      return forwarded ++ responded

/-- The token that `GG_CoapEndpoint_SendRequestFromBufferSource` makes. -/
def nextToken (self : SplitterRun η φ) : List UInt8 := self.tokenPrefix ++ bytesFromInt32Be self.tokenCounter.toUInt32

/-- The token counter after a request. It is a handle too, which is never 0. -/
def nextCounter (self : SplitterRun η φ) : UInt64 :=
  if self.tokenCounter + 1 = 0 then 1 else self.tokenCounter + 1

/-- `GG_CoapEndpoint_SendRequestFromBufferSource`, up to the first time the request is sent. -/
def sendRequest (self : SplitterRun η φ) (method : UInt8) (options : List MessageOption) (payload : List UInt8) :
    Access (SplitterRun η φ × List SplitterPut) := do
  assert (self.tokenPrefix.length ≤ 4)
  let sent := { self with
    tokenCounter := self.nextCounter
    messageIdCounter := self.messageIdCounter + 1
    sideTokens := self.sideTokens ++ [self.nextToken] }
  match ← create method .con options self.messageIdCounter self.nextToken (some payload) payload.length with
  | .error _ => return (sent, [])
  | .ok request => return (sent, sent.splitter.sidePutData request.toDatagram none)

def step (self : SplitterRun η φ) : SplitterStep η φ → Access (SplitterRun η φ × List SplitterPut)
  | .top data metadata => do
      let (splitter, puts) ← self.splitter.topPutData data metadata
      let isRequest ← datagramIsRequest data
      let topTokens := match isRequest, tokenOf data with
        | true, some token => self.topTokens ++ [token]
        | _, _ => self.topTokens
      return ({ self with splitter := splitter, topTokens := topTokens }, puts)
  | .bottom data metadata filter handle => do
      let (splitter, puts) ← self.splitter.bottomPutData self.tokenPrefix data metadata
      let self := { self with splitter := splitter }
      if puts.any (·.port = .side) then
        let more ← self.endpointPutData data metadata filter handle
        return (self, puts ++ more)
      else return (self, puts)
  | .side data metadata => return (self, self.splitter.sidePutData data metadata)
  | .sendRequest method options payload => self.sendRequest method options payload
  | .setSinks top bottom =>
      return ({ self with splitter := { self.splitter with topSink := top, bottomSink := bottom } }, [])

/-- The state after a run. -/
def run (self : SplitterRun η φ) (steps : List (SplitterStep η φ)) : Access (SplitterRun η φ) :=
  steps.foldlM (fun state step => do return (← state.step step).1) self

/-- `GG_CoapSplitter_Create`, for an endpoint with a token prefix, handlers and filters, whose default
    handler the splitter then is. -/
def create (tokenPrefix : List UInt8) (tokenCounter : UInt64) (messageIdCounter : UInt16)
    (handlers : RequestHandlers (SideHandler η) φ) : SplitterRun η φ where
  splitter := ⟨false, false, ⟨0, 0⟩, ⟨0, 0⟩⟩
  tokenPrefix := tokenPrefix
  tokenCounter := tokenCounter
  messageIdCounter := messageIdCounter
  handlers := handlers.setDefaultRequestHandler (some .splitter)
  sideTokens := []
  topTokens := []

end SplitterRun

/-! ## Decisions -/

/-- A request that the splitter knows: one of the four methods. -/
def IsRequest (data : List UInt8) : Prop := 4 ≤ data.length ∧ ∃ code, data[1]? = some code ∧ 1 ≤ code ∧ code ≤ 4

/-- A response, by the class of its code. -/
def IsResponse (data : List UInt8) : Prop :=
  4 ≤ data.length ∧ ∃ code, data[1]? = some code ∧ messageCodeClass code ≠ codeClassRequest

/-- The token of the datagram starts with the given bytes, as the splitter sees it. -/
def TokenStarts (tokenPrefix data : List UInt8) : Prop :=
  4 + tokenPrefix.length ≤ data.length ∧ (∃ first : UInt8, data[0]? = some first ∧ tokenPrefix.length ≤ first.toNat % 16) ∧
    tokenPrefix <+: data.drop 4

theorem IsResponse.notRequest {data : List UInt8} (isResponse : IsResponse data) : ¬ IsRequest data := by
  rintro ⟨-, code, isCode, -, small⟩
  obtain ⟨-, code', isCode', notRequest⟩ := isResponse
  rw [isCode] at isCode'
  obtain rfl := Option.some.inj isCode'
  apply notRequest
  have small' : code.toNat ≤ 4 := UInt8.le_iff_toNat_le.mp small
  unfold messageCodeClass codeClassRequest
  rw [Nat.shiftRight_eq_div_pow]
  omega

theorem datagramIsRequest_ok (data : List UInt8) :
    ∃ isRequest, datagramIsRequest data = .ok isRequest ∧ (isRequest = true ↔ IsRequest data) := by
  unfold datagramIsRequest
  split
  · rename_i long
    have inside : 1 < data.length := by omega
    rw [load_lt inside, ok_bind]
    refine ⟨_, rfl, ?_⟩
    unfold IsRequest
    simp [List.getElem?_eq_getElem inside, long]
  · rename_i short
    exact ⟨false, rfl, fun same => (nomatch same), fun isRequest => absurd isRequest.1 short⟩

/-- A datagram goes to the side or to the top by what it is and by the start of its token, and nothing
    behind its end is read. -/
theorem routeFromBottom_ok {tokenPrefix : List UInt8} (nonempty : tokenPrefix ≠ []) (data : List UInt8) :
    ∃ route, routeFromBottom tokenPrefix data = .ok route ∧ (IsRequest data → route = .requestToSide) ∧
      (¬ IsRequest data → (TokenStarts tokenPrefix data → route = .responseToSide) ∧
        (¬ TokenStarts tokenPrefix data → route = .responseToTop)) := by
  obtain ⟨isRequest, decided, iff⟩ := datagramIsRequest_ok data
  have hasPrefix : ¬ tokenPrefix.length = 0 := by simpa using nonempty
  unfold routeFromBottom getTokenFromDatagram
  rw [decided, ok_bind]
  cases isRequest with
  | true => exact ⟨_, rfl, fun _ => rfl, fun not => absurd (iff.mp rfl) not⟩
  | false =>
      have notRequest : ¬ IsRequest data := fun request => (nomatch iff.mpr request)
      simp only [Bool.false_eq_true, if_false, hasPrefix]
      split
      · rename_i short
        refine ⟨_, rfl, fun request => absurd request notRequest, fun _ => ⟨?_, fun _ => rfl⟩⟩
        intro starts
        exact absurd starts.1 (by omega)
      · rename_i long
        have inside : 0 < data.length := by omega
        simp only [load_lt inside, ok_bind, Bytes.low_nibble]
        split
        · rename_i few
          refine ⟨_, rfl, fun request => absurd request notRequest, fun _ => ⟨?_, fun _ => rfl⟩⟩
          rintro ⟨-, ⟨first, isFirst, announced⟩, -⟩
          rw [List.getElem?_eq_getElem inside] at isFirst
          rw [Option.some.inj isFirst] at few
          omega
        · rename_i enough
          have fits : tokenPrefix.length ≤ (data.drop 4).length := by
            rw [List.length_drop]
            omega
          simp only [pure_ok, ok_bind, readBytes, if_pos fits]
          split
          · rename_i same
            refine ⟨_, rfl, fun request => absurd request notRequest, fun _ => ⟨fun _ => rfl, ?_⟩⟩
            intro not
            refine absurd ⟨by omega, ⟨_, List.getElem?_eq_getElem inside, by omega⟩, ?_⟩ not
            exact List.prefix_iff_eq_take.mpr same.symm
          · rename_i different
            refine ⟨_, rfl, fun request => absurd request notRequest, fun _ => ⟨?_, fun _ => rfl⟩⟩
            intro starts
            exact absurd (List.prefix_iff_eq_take.mp starts.2.2).symm different

/-- The splitter finds the token where it is. -/
theorem tokenStarts_iff {data token : List UInt8} (isToken : tokenOf data = some token) (tokenPrefix : List UInt8) :
    TokenStarts tokenPrefix data ↔ tokenPrefix <+: token := by
  unfold tokenOf at isToken
  split at isToken
  · rename_i first _ _ _ rest
    simp only at isToken
    split at isToken
    · rename_i fits
      rw [← Option.some.inj isToken, List.prefix_take_iff]
      refine ⟨?_, ?_⟩
      · rintro ⟨-, ⟨first', isFirst, announced⟩, starts⟩
        obtain rfl := Option.some.inj isFirst
        exact ⟨starts, announced⟩
      · rintro ⟨starts, announced⟩
        refine ⟨?_, ⟨first, rfl, announced⟩, starts⟩
        have short := starts.length_le
        simp only [List.length_cons]
        omega
    · exact nomatch isToken
  · exact nomatch isToken

/-! ## Routing -/

namespace SplitterRun

variable {η φ : Type}

/-- Where datagrams from the bottom go. -/
structure Routes (state : SplitterRun η φ) : Prop where
  /-- Responses to the endpoint go to the side, and nowhere else. -/
  sideResponses : ∀ token ∈ state.sideTokens, ∀ data, IsResponse data → tokenOf data = some token →
    ∀ metadata filter handle, state.step (.bottom data metadata filter handle) = .ok (state, [⟨.side, data, metadata⟩])
  /-- Responses to clients at the top go to the top, and nowhere else. -/
  topResponses : ∀ token ∈ state.topTokens, ¬ state.tokenPrefix <+: token → ∀ data, IsResponse data →
    tokenOf data = some token → ∀ metadata filter handle, state.step (.bottom data metadata filter handle) =
      .ok (state, state.splitter.toTop data (CoapSplitter.responseMetadata state.splitter.topResponseMetadata))
  /-- Requests go to the endpoint. What the endpoint drops goes nowhere; and one that is parsed, that no
      handler is registered for and that the filters let pass goes to the top as it is, once. -/
  requests : ∀ data, IsRequest data → ∀ metadata filter handle, (∀ handler, handle handler ≠ .success) →
    ∃ state' more, state.step (.bottom data metadata filter handle) = .ok (state', ⟨.side, data, metadata⟩ :: more) ∧
      (∀ put ∈ more, put.port = .bottom ∨ put = ⟨.top, data, none⟩) ∧
      (∀ error, createFromDatagram data = .ok (.error error) → more = []) ∧
      ∀ message, createFromDatagram data = .ok (.ok message) →
        (∀ node ∈ state.handlers.handlers, node.isFor message ≠ .ok true) →
        RequestHandlers.filterRequest filter state.handlers.requestFilters = .success →
        more = state.splitter.toTop data none
  /-- Nothing is read behind the end of a datagram to decide where it goes. -/
  decides : ∀ data, (∃ isRequest, datagramIsRequest data = .ok isRequest) ∧
    ∃ route, routeFromBottom state.tokenPrefix data = .ok route

/-- What holds of the endpoint in a run. -/
structure Configured (state : SplitterRun η φ) : Prop where
  nonempty : state.tokenPrefix ≠ []
  tokens : ∀ token ∈ state.sideTokens, state.tokenPrefix <+: token
  default : state.handlers.defaultHandler = some .splitter

theorem Configured.step {state state' : SplitterRun η φ} (configured : Configured state) {step : SplitterStep η φ}
    {puts : List SplitterPut} (isStep : state.step step = .ok (state', puts)) : Configured state' := by
  obtain ⟨nonempty, tokens, default⟩ := configured
  cases step with
  | top data metadata =>
      obtain ⟨⟨splitter, _⟩, -, isStep⟩ := bind_ok isStep
      obtain ⟨_, -, isStep⟩ := bind_ok isStep
      rw [← (Prod.mk.inj (Except.ok.inj isStep)).1]
      exact ⟨nonempty, tokens, default⟩
  | bottom data metadata filter handle =>
      obtain ⟨⟨splitter, _⟩, -, isStep⟩ := bind_ok isStep
      simp only at isStep
      split at isStep
      · obtain ⟨_, -, isStep⟩ := bind_ok isStep
        rw [← (Prod.mk.inj (Except.ok.inj isStep)).1]
        exact ⟨nonempty, tokens, default⟩
      · rw [← (Prod.mk.inj (Except.ok.inj isStep)).1]
        exact ⟨nonempty, tokens, default⟩
  | side data metadata =>
      rw [← (Prod.mk.inj (Except.ok.inj isStep)).1]
      exact ⟨nonempty, tokens, default⟩
  | sendRequest method options payload =>
      have tokens' : ∀ token ∈ state.sideTokens ++ [state.nextToken], state.tokenPrefix <+: token := by
        intro token member
        rcases List.mem_append.mp member with old | new
        · exact tokens token old
        · rw [List.mem_singleton.mp new]
          exact List.prefix_append _ _
      obtain ⟨-, -, isStep⟩ := bind_ok isStep
      obtain ⟨_, -, isStep⟩ := bind_ok isStep
      split at isStep
      · rw [← (Prod.mk.inj (Except.ok.inj isStep)).1]
        exact ⟨nonempty, tokens', default⟩
      · rw [← (Prod.mk.inj (Except.ok.inj isStep)).1]
        exact ⟨nonempty, tokens', default⟩
  | setSinks top bottom =>
      rw [← (Prod.mk.inj (Except.ok.inj isStep)).1]
      exact ⟨nonempty, tokens, default⟩

theorem Configured.run {state state' : SplitterRun η φ} (configured : Configured state) {steps : List (SplitterStep η φ)}
    (runs : state.run steps = .ok state') : Configured state' := by
  refine Runs.run_keeps ?_ configured (fun _ _ => trivial) runs
  intro state step next configured _ stepped
  obtain ⟨⟨_, puts⟩, isStep, isNext⟩ := bind_ok stepped
  obtain rfl := Except.ok.inj isNext
  exact configured.step isStep

/-- A response that the endpoint gets is left to its client side. -/
theorem endpointPutData_response (state : SplitterRun η φ) {data : List UInt8} (isResponse : IsResponse data)
    (metadata : Option BufferMetadata) (filter : φ → HandlerResult) (handle : η → HandlerResult) :
    state.endpointPutData data metadata filter handle = .ok [] := by
  obtain ⟨-, code, isCode, notRequest⟩ := isResponse
  unfold endpointPutData
  rcases createFromDatagram_sound data with ⟨error, parsed⟩ | ⟨wire, wireBytes⟩
  · rw [parsed]
    rfl
  · have loaded : Message.getCode ⟨data, data.length - wire.payload.length, wire.payload.length⟩ = .ok code := by
      unfold Message.getCode load
      rw [isCode]
    rw [createFromDatagram_complete wireBytes, ok_bind]
    simp only [loaded, ok_bind, notRequest, ne_eq, not_false_eq_true, if_true]
    rfl

theorem Configured.sideResponse {state : SplitterRun η φ} (configured : Configured state) {data : List UInt8}
    (isResponse : IsResponse data) (starts : TokenStarts state.tokenPrefix data) (metadata : Option BufferMetadata)
    (filter : φ → HandlerResult) (handle : η → HandlerResult) :
    state.step (.bottom data metadata filter handle) = .ok (state, [⟨.side, data, metadata⟩]) := by
  obtain ⟨route, decided, -, byToken⟩ := routeFromBottom_ok configured.nonempty data
  obtain rfl := (byToken isResponse.notRequest).1 starts
  unfold SplitterRun.step CoapSplitter.bottomPutData
  simp only [decided, ok_bind, pure_ok]
  rw [if_pos (by simp), endpointPutData_response _ isResponse]
  rfl

theorem Configured.topResponse {state : SplitterRun η φ} (configured : Configured state) {data : List UInt8}
    (isResponse : IsResponse data) (others : ¬ TokenStarts state.tokenPrefix data) (metadata : Option BufferMetadata)
    (filter : φ → HandlerResult) (handle : η → HandlerResult) :
    state.step (.bottom data metadata filter handle) =
      .ok (state, state.splitter.toTop data (CoapSplitter.responseMetadata state.splitter.topResponseMetadata)) := by
  obtain ⟨route, decided, -, byToken⟩ := routeFromBottom_ok configured.nonempty data
  obtain rfl := (byToken isResponse.notRequest).2 others
  unfold SplitterRun.step CoapSplitter.bottomPutData
  simp only [decided, ok_bind, pure_ok]
  rw [if_neg]
  unfold CoapSplitter.toTop
  split <;> exact Bool.false_ne_true

theorem handleRequest_returns {handle : η → HandlerResult} (returns : ∀ handler, handle handler ≠ .success)
    (handler : SideHandler η) : handleRequest handle handler ≠ .success := by
  cases handler with
  | splitter => exact fun same => nomatch same
  | own handler => exact returns handler

theorem mem_toTop {splitter : CoapSplitter} {data : List UInt8} {metadata : Option BufferMetadata} {put : SplitterPut}
    (member : put ∈ splitter.toTop data metadata) : put = ⟨.top, data, metadata⟩ := by
  unfold CoapSplitter.toTop at member
  split at member
  · exact List.mem_singleton.mp member
  · exact nomatch member

theorem mem_sidePutData {splitter : CoapSplitter} {data : List UInt8} {metadata : Option BufferMetadata} {put : SplitterPut}
    (member : put ∈ splitter.sidePutData data metadata) : put.port = .bottom := by
  unfold CoapSplitter.sidePutData CoapSplitter.toBottom at member
  split at member
  · rw [List.mem_singleton.mp member]
  · exact nomatch member

/-- What the endpoint does with a request. -/
theorem Configured.endpointPutData_request {state : SplitterRun η φ} (configured : Configured state) {data : List UInt8}
    (isRequest : IsRequest data) (metadata : Option BufferMetadata) (filter : φ → HandlerResult) {handle : η → HandlerResult}
    (returns : ∀ handler, handle handler ≠ .success) :
    ∃ more, state.endpointPutData data metadata filter handle = .ok more ∧
      (∀ put ∈ more, put.port = .bottom ∨ put = ⟨.top, data, none⟩) ∧
      (∀ error, createFromDatagram data = .ok (.error error) → more = []) ∧
      ∀ message, createFromDatagram data = .ok (.ok message) →
        (∀ node ∈ state.handlers.handlers, node.isFor message ≠ .ok true) →
        RequestHandlers.filterRequest filter state.handlers.requestFilters = .success →
        more = state.splitter.toTop data none := by
  obtain ⟨-, code, isCode, isMethod⟩ := isRequest
  unfold endpointPutData
  rcases createFromDatagram_sound data with ⟨error, failed⟩ | ⟨wire, wireBytes⟩
  · rw [failed, ok_bind]
    refine ⟨[], rfl, fun _ member => (nomatch member), fun _ _ => rfl, ?_⟩
    intro message accepted
    exact nomatch Except.ok.inj accepted
  · have parsed := createFromDatagram_complete wireBytes
    rw [parsed, ok_bind]
    have loaded : Message.getCode ⟨data, data.length - wire.payload.length, wire.payload.length⟩ = .ok code := by
      unfold Message.getCode load
      rw [isCode]
    have isClass : messageCodeClass code = codeClassRequest := by
      have small : code.toNat ≤ 4 := UInt8.le_iff_toNat_le.mp isMethod.2
      unfold messageCodeClass codeClassRequest
      rw [Nat.shiftRight_eq_div_pow]
      omega
    obtain ⟨asked, response, handled⟩ :=
      state.handlers.onRequest_ok filter (handleRequest_returns returns) parsed loaded
    simp only [loaded, ok_bind, isClass, ne_eq, not_true_eq_false, if_false, handled, Message.toDatagram]
    refine ⟨_, rfl, ?_, ?_, ?_⟩
    · intro put member
      rcases List.mem_append.mp member with forwarded | responded
      · split at forwarded
        · exact .inr (mem_toTop forwarded)
        · exact nomatch forwarded
      · split at responded
        · exact nomatch responded
        · exact .inl (mem_sidePutData responded)
    · intro error failed
      exact nomatch Except.ok.inj failed
    · intro message' accepted none passes
      obtain rfl := Except.ok.inj (Except.ok.inj accepted)
      rw [state.handlers.onRequest_default configured.default rfl parsed loaded isMethod none passes] at handled
      obtain ⟨rfl, rfl⟩ := Prod.mk.inj (Except.ok.inj handled)
      exact List.append_nil _

theorem Configured.routes {state : SplitterRun η φ} (configured : Configured state) : Routes state := by
  refine ⟨?_, ?_, ?_, ?_⟩
  · intro token member data isResponse isToken metadata filter handle
    exact configured.sideResponse isResponse ((tokenStarts_iff isToken _).mpr (configured.tokens token member)) _ _ _
  · intro token _ others data isResponse isToken metadata filter handle
    exact configured.topResponse isResponse (fun starts => others ((tokenStarts_iff isToken _).mp starts)) _ _ _
  · intro data isRequest metadata filter handle returns
    obtain ⟨route, decided, byCode, -⟩ := routeFromBottom_ok configured.nonempty data
    obtain rfl := byCode isRequest
    let splitter := { state.splitter with
      bottomResponseMetadata := CoapSplitter.updateResponseMetadata metadata state.splitter.bottomResponseMetadata }
    have configured' : Configured { state with splitter := splitter } :=
      ⟨configured.nonempty, configured.tokens, configured.default⟩
    obtain ⟨more, handled, puts, dropped, passed⟩ :=
      configured'.endpointPutData_request isRequest metadata filter returns
    refine ⟨{ state with splitter := splitter }, more, ?_, puts, dropped, passed⟩
    unfold SplitterRun.step CoapSplitter.bottomPutData
    simp only [decided, ok_bind, pure_ok]
    rw [if_pos (by simp), handled]
    rfl
  · intro data
    obtain ⟨isRequest, decided, -⟩ := datagramIsRequest_ok data
    obtain ⟨route, decided', -⟩ := routeFromBottom_ok configured.nonempty data
    exact ⟨⟨isRequest, decided⟩, route, decided'⟩

end SplitterRun

/-- In every run of a splitter whose endpoint has a token prefix, each datagram goes where it should. -/
theorem routes_of_run {η φ : Type} (tokenPrefix : List UInt8) (tokenCounter : UInt64) (messageIdCounter : UInt16)
    (handlers : RequestHandlers (SideHandler η) φ) (nonempty : tokenPrefix ≠ []) (steps : List (SplitterStep η φ))
    (state : SplitterRun η φ)
    (runs : (SplitterRun.create tokenPrefix tokenCounter messageIdCounter handlers).run steps = .ok state) : state.Routes := by
  have created : (SplitterRun.create tokenPrefix tokenCounter messageIdCounter handlers).Configured :=
    ⟨nonempty, fun _ member => absurd member List.not_mem_nil, rfl⟩
  exact (created.run runs).routes

/-- The endpoint sends a request, and a client at the top another one. -/
def splitterSteps : List (SplitterStep Unit Unit) :=
  [.setSinks true true, .sendRequest 1 [] [], .top [0x41, 1, 0, 1, 0x10] none]

theorem routes_splitterSteps :
    ∃ state, (SplitterRun.create [0xAA] 5 0 ⟨[], [], none⟩).run splitterSteps = .ok state ∧
      state.sideTokens = [[0xAA, 0, 0, 0, 5]] ∧ state.topTokens = [[0x10]] ∧ state.Routes := by
  have runs : ∃ state, (SplitterRun.create [0xAA] 5 0 ⟨[], [], none⟩).run splitterSteps = .ok state ∧
      state.sideTokens = [[0xAA, 0, 0, 0, 5]] ∧ state.topTokens = [[0x10]] := ⟨_, rfl, by decide, by decide⟩
  obtain ⟨state, runs, sideTokens, topTokens⟩ := runs
  exact ⟨state, runs, sideTokens, topTokens, routes_of_run [0xAA] 5 0 _ (by decide) splitterSteps state runs⟩

/-- A request that the parser of the endpoint refuses does not go to the top, though no handler is
    registered; nor does one that a filter answers. -/
theorem requests_stopped :
    ∃ state : SplitterRun Unit Unit,
      (SplitterRun.create [0xAA] 5 0 ⟨[], [()], none⟩).run [.setSinks true true] = .ok state ∧
      state.splitter.topSink = true ∧ state.handlers.handlers = [] ∧
      (IsRequest [0x4F, 1, 0, 0] ∧ ∃ state', state.step (.bottom [0x4F, 1, 0, 0] none (fun _ => .success) (fun _ => .code 1)) =
        .ok (state', [⟨.side, [0x4F, 1, 0, 0], none⟩])) ∧
      (IsRequest [0x40, 1, 0, 0] ∧ ∃ state', state.step (.bottom [0x40, 1, 0, 0] none (fun _ => .code 129) (fun _ => .code 1)) =
        .ok (state', [⟨.side, [0x40, 1, 0, 0], none⟩, ⟨.bottom, [0x60, 129, 0, 0], none⟩])) := by
  refine ⟨_, rfl, rfl, rfl, ⟨⟨by decide, 1, rfl, by decide⟩, _, rfl⟩, ⟨by decide, 1, rfl, by decide⟩, _, rfl⟩

end GoldenGate.Coap
