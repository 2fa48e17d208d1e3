import GoldenGate.Coap.Block

/-! # Blockwise requests

The embedding of the client of `gg_coap_blockwise.c`. A blockwise request is a context that
sends one sub-request after the other to its endpoint and hands the blocks of the responses to
its listener. What the endpoint makes of a sub-request is an input, and so are the calls that
the listener makes inside `OnResponseBlock`.
-/

namespace GoldenGate.Coap

open Memory

inductive Method where
  | get
  | post
  | put
  | delete
  deriving Repr, DecidableEq

/-- `GG_CoapBlockSource`. -/
structure BlockSource where
  getDataSize : Nat → Nat → Except Error (Nat × Bool)
  getData : Nat → Nat → List UInt8

/-- A source of the bytes of a payload. -/
def BlockSource.ofPayload (payload : List UInt8) : BlockSource where
  getDataSize offset size := adjustAndGetChunkSize offset size payload.length
  getData offset size := (payload.drop offset).take size

theorem BlockSource.ofPayload_getDataSize (payload : List UInt8) (offset size : Nat) :
    (BlockSource.ofPayload payload).getDataSize offset size = adjustAndGetChunkSize offset size payload.length := rfl

/-- `GG_CoapBlockwiseRequestContext`; the bits of the state are fields. -/
structure RequestContext where
  method : Method
  source : Option BlockSource
  block1Active : Bool
  block2Active : Bool
  paused : Bool
  preferredBlockSize : Nat
  block2Info : BlockInfo
  block1Info : BlockInfo
  block1PayloadSize : Nat
  options : List MessageOption
  etag : List UInt8

/-- A sub-request, as it is given to the endpoint. -/
structure SubRequest where
  method : Method
  options : List MessageOption
  payload : List UInt8
  deriving Repr, DecidableEq

/-- What the listener is told. -/
inductive BlockEvent where
  | block (info : BlockInfo) (payload : List UInt8)
  | error (error : Error)
  deriving Repr, DecidableEq

/-- What the endpoint makes of a sub-request: it is pending, or the endpoint returns an error,
    or it returns success after it has reported an error to the context. -/
inductive SendResult where
  | pending
  | failed (error : Error)
  | reported (error : Error)
  deriving Repr, DecidableEq

/-- The calls of an application on a request of its own. -/
inductive BlockwiseCall where
  | pause
  | resume (result : SendResult)
  | cancel
  deriving Repr, DecidableEq

/-- Some of the calls is a pause. -/
def hasPause (calls : List BlockwiseCall) : Bool := calls.any (· = .pause)

/-- The calls leave the request where it is. -/
def NoCancel (calls : List BlockwiseCall) : Prop := ∀ call ∈ calls, call ≠ .cancel

/-- A blockwise request and what is around it: whether a sub-request is pending in the endpoint,
    the sub-requests the endpoint was given, and what the listener was told. -/
structure Transfer where
  context : Option RequestContext
  isPending : Bool
  requests : List SubRequest
  log : List BlockEvent

/-! ## Sub-requests -/

namespace RequestContext

/-- The BLOCK1 option, and the variable for its value. -/
def block1Option (self : RequestContext) : Access (List MessageOption × Option UInt32) :=
  if self.block1Active then
    match self.block1Info.toOptionValue with
    | .ok value => .ok ([⟨optionBlock1, .uint value⟩], some value)
    | .error _ => .error .undefined
  else .ok ([], none)

def wantsBlock2 (self : RequestContext) : Bool :=
  self.block2Active || (self.preferredBlockSize ≠ 0 && (!self.block1Active || !self.block1Info.more))

/-- The BLOCK2 option. The variable for its value is the same, and keeps what it holds when the
    block size is not one. -/
def block2Option (self : RequestContext) (value : Option UInt32) : Access (List MessageOption) :=
  if self.wantsBlock2 then
    match self.block2Info.toOptionValue, value with
    | .ok value, _ => .ok [⟨optionBlock2, .uint value⟩]
    | .error _, some value => .ok [⟨optionBlock2, .uint value⟩]
    | .error _, none => .error .undefined
  else .ok []

def ifMatchOption (self : RequestContext) : List MessageOption :=
  if self.etag ≠ [] then [⟨optionIfMatch, .bytes (some self.etag) self.etag.length⟩] else []

/-- The payload of the sub-request: the current block of the source. -/
def blockPayload (self : RequestContext) : Access (List UInt8) :=
  if self.block1Active ∧ self.block1PayloadSize ≠ 0 then
    match self.source with
    | none => .error .assertion
    | some source => .ok (source.getData self.block1Info.offset self.block1PayloadSize)
  else .ok []

/-- The request that `GG_CoapBlockwiseRequestContext_SendBlockwiseRequest` sends. -/
def subRequest (self : RequestContext) : Access SubRequest := do
  let (block1, value) ← self.block1Option
  let block2 ← self.block2Option value
  let payload ← self.blockPayload
  return ⟨self.method, block1 ++ (block2 ++ (self.ifMatchOption ++ self.options)), payload⟩

/-- A payload has a source. -/
theorem blockPayload_ok {context : RequestContext} (noSource : context.source = none → context.block1PayloadSize = 0) :
    ∃ payload, context.blockPayload = .ok payload := by
  unfold blockPayload
  split
  · rename_i has
    cases isSource : context.source with
    | none => exact absurd (noSource isSource) has.2
    | some source => exact ⟨_, rfl⟩
  · exact ⟨_, rfl⟩

/-- A sub-request can be made as long as the sizes it tells are block sizes and its payload has a
    source. -/
theorem subRequest_ok {context : RequestContext} (block1 : context.block1Active = true → IsBlockSize context.block1Info.size)
    (block2 : context.block1Active = false → context.wantsBlock2 = true → IsBlockSize context.block2Info.size)
    (noSource : context.source = none → context.block1PayloadSize = 0) : ∃ request, context.subRequest = .ok request := by
  obtain ⟨payload, isPayload⟩ := blockPayload_ok noSource
  unfold subRequest
  rw [isPayload]
  cases active : context.block1Active with
  | true =>
      obtain ⟨value, isValue, -⟩ := BlockInfo.toOptionValue_spec (block1 active)
      simp only [block1Option, active, if_true, isValue, ok_bind, block2Option]
      split
      · cases context.block2Info.toOptionValue <;> exact ⟨_, rfl⟩
      · exact ⟨_, rfl⟩
  | false =>
      simp only [block1Option, active, Bool.false_eq_true, if_false, ok_bind, block2Option]
      split
      · rename_i wants
        obtain ⟨value, isValue, -⟩ := BlockInfo.toOptionValue_spec (block2 active wants)
        rw [isValue]
        exact ⟨_, rfl⟩
      · exact ⟨_, rfl⟩

/-- The context after the payload source was asked for the size of the current block. -/
def sized (self : RequestContext) (source : BlockSource) : Except Error RequestContext :=
  match source.getDataSize self.block1Info.offset self.block1Info.size with
  | .error error => .error error
  | .ok (size, more) => .ok { self with block1PayloadSize := size, block1Info := { self.block1Info with more := more } }

/-- A context that was paused, or not. -/
def pausedBy (self : RequestContext) (paused : Bool) : RequestContext :=
  { self with paused := self.paused || paused }

theorem pausedBy_false (context : RequestContext) : context.pausedBy false = context := by
  simp [pausedBy]

theorem pausedBy_pausedBy (context : RequestContext) (paused paused' : Bool) :
    (context.pausedBy paused).pausedBy paused' = context.pausedBy (paused || paused') := by
  simp [pausedBy, Bool.or_assoc]

end RequestContext

namespace Transfer

/-- `GG_CoapBlockwiseRequestContext_Destroy`: a pending sub-request is cancelled. -/
def destroy (self : Transfer) : Transfer := { self with context := none, isPending := false }

/-- `GG_CoapBlockwiseRequestContext_NotifyErrorAndTerminate`. Whether or not the listener cancels
    the request, it is gone afterwards. -/
def notifyErrorAndTerminate (self : Transfer) (error : Error) : Transfer :=
  { self with log := self.log ++ [BlockEvent.error error] }.destroy

/-- `GG_CoapBlockwiseRequestContext_SendBlockwiseRequest`. -/
def sendBlockwiseRequest (self : Transfer) (context : RequestContext) (result : SendResult) :
    Access (Transfer × Except Error Unit) :=
  if context.paused then return ({ self with context := some context }, .ok ())
  else do
    let request ← context.subRequest
    let self := { self with context := some context }
    match result with
    | .pending => return ({ self with isPending := true, requests := self.requests ++ [request] }, .ok ())
    | .failed error => return (self, .error error)
    | .reported error => return (self.notifyErrorAndTerminate error, .ok ())

/-- The initial state of the context in `GG_CoapEndpoint_SendBlockwiseRequest`. -/
def initialContext (method : Method) (options : List MessageOption) (source : Option BlockSource)
    (preferredBlockSize : Nat) : RequestContext :=
  let context : RequestContext := {
    method := method
    source := source
    block1Active := false
    block2Active := false
    paused := false
    preferredBlockSize := preferredBlockSize
    block2Info := ⟨0, if preferredBlockSize ≠ 0 then preferredBlockSize else blockwiseDefaultBlockSize, false⟩
    block1Info := ⟨0, 0, false⟩
    block1PayloadSize := 0
    options := options
    etag := [] }
  if method = .put ∨ method = .post then
    let context := { context with block1Active := true, block1Info := ⟨0, 1024, false⟩ }
    match source with
    | none => context
    | some source =>
        match context.sized source with
        | .ok context => context
        | .error _ => context
  else context

/-- A context as it begins. -/
structure Initial (method : Method) (source : Option BlockSource) (context : RequestContext) : Prop where
  runs : context.paused = false
  active : context.block1Active = true ↔ method = .put ∨ method = .post
  size : context.block1Active = true → context.block1Info.size = 1024
  isSource : context.source = source
  noSource : source = none → context.block1PayloadSize = 0

theorem initialContext_spec (method : Method) (options : List MessageOption) (source : Option BlockSource)
    (preferredBlockSize : Nat) : Initial method source (initialContext method options source preferredBlockSize) := by
  unfold initialContext
  simp only
  split
  · rename_i isUpload
    split
    · exact ⟨rfl, by simpa using isUpload, fun _ => rfl, rfl, fun _ => rfl⟩
    · split
      · rename_i sized
        unfold RequestContext.sized at sized
        split at sized
        · exact nomatch sized
        · rw [← Except.ok.inj sized]
          exact ⟨rfl, by simpa using isUpload, fun _ => rfl, rfl, fun none => (nomatch none)⟩
      · exact ⟨rfl, by simpa using isUpload, fun _ => rfl, rfl, fun _ => rfl⟩
  · rename_i notUpload
    exact ⟨rfl, by simpa using notUpload, fun active => (nomatch active), rfl, fun _ => rfl⟩

/-- The context of a GET request. -/
theorem initialContext_get (options : List MessageOption) (preferredBlockSize : Nat) :
    initialContext .get options none preferredBlockSize =
      { method := .get
        source := none
        block1Active := false
        block2Active := false
        paused := false
        preferredBlockSize := preferredBlockSize
        block2Info := ⟨0, if preferredBlockSize ≠ 0 then preferredBlockSize else blockwiseDefaultBlockSize, false⟩
        block1Info := ⟨0, 0, false⟩
        block1PayloadSize := 0
        options := options
        etag := [] } := by
  simp [initialContext]

/-- `GG_CoapEndpoint_SendBlockwiseRequest`: a request that cannot be sent does not exist. The
    handle is returned from a context that is gone when an error was reported. -/
def send (method : Method) (options : List MessageOption) (source : Option BlockSource) (preferredBlockSize : Nat)
    (result : SendResult) : Access (Transfer × Except Error Unit) := do
  assert (¬ (source.isSome ∧ method ≠ .put ∧ method ≠ .post))
  let (self, sent) ← sendBlockwiseRequest ⟨none, false, [], []⟩
    (initialContext method options source preferredBlockSize) result
  match sent, self.context with
  | .error error, _ => return (self.destroy, .error error)
  | .ok (), none => .error .undefined
  | .ok (), some _ => return (self, .ok ())

/-- A request whose first sub-request is pending exists. -/
theorem send_ok {method : Method} {options : List MessageOption} {source : Option BlockSource} {preferredBlockSize : Nat}
    {result : SendResult} {transfer : Transfer} {context : RequestContext}
    (allowed : ¬ (source.isSome ∧ method ≠ .put ∧ method ≠ .post))
    (sends : sendBlockwiseRequest ⟨none, false, [], []⟩ (initialContext method options source preferredBlockSize) result =
      .ok (transfer, .ok ()))
    (hasContext : transfer.context = some context) :
    send method options source preferredBlockSize result = .ok (transfer, .ok ()) := by
  simp only [send, assert_of allowed, sends, ok_bind, hasContext]
  rfl

/-- A request that exists has sent its first sub-request, and has a source only if it may. -/
theorem sends_of_send {method : Method} {options : List MessageOption} {source : Option BlockSource}
    {preferredBlockSize : Nat} {result : SendResult} {transfer : Transfer}
    (sends : send method options source preferredBlockSize result = .ok (transfer, .ok ())) :
    ¬ (source.isSome ∧ method ≠ .put ∧ method ≠ .post) ∧ ∃ request,
      transfer = ⟨some (initialContext method options source preferredBlockSize), true, [request], []⟩ := by
  obtain ⟨_, asserts, sends⟩ := bind_ok sends
  have allowed : ¬ (source.isSome ∧ method ≠ .put ∧ method ≠ .post) := by
    by_contra forbidden
    simp [assert, forbidden] at asserts
  refine ⟨allowed, ?_⟩
  have runs := (initialContext_spec method options source preferredBlockSize).runs
  rw [sendBlockwiseRequest, if_neg (by simp [runs])] at sends
  cases isRequest : (initialContext method options source preferredBlockSize).subRequest with
  | error fault =>
      rw [isRequest] at sends
      cases sends
  | ok request =>
      rw [isRequest] at sends
      cases result with
      | pending => exact ⟨request, (Prod.mk.inj (Except.ok.inj sends)).1.symm⟩
      | failed error => cases sends
      | reported error => cases sends

/-! ## Calls -/

/-- `GG_CoapEndpoint_SetBlockwiseRequestPausedState` and `GG_CoapEndpoint_CancelBlockwiseRequest`.
    A request that is gone is not found. -/
def call (self : Transfer) (call : BlockwiseCall) : Access Transfer :=
  match self.context with
  | none => return self
  | some context =>
      match call with
      | .pause => return { self with context := some { context with paused := true } }
      | .resume result =>
          if context.paused then do
            let (self, _) ← self.sendBlockwiseRequest context result
            return self
          else return self
      | .cancel => return self.destroy

def calls (self : Transfer) (calls : List BlockwiseCall) : Access Transfer := calls.foldlM call self

/-- A pause marks the context, and to resume it changes nothing. -/
theorem call_eq {transfer : Transfer} {call : BlockwiseCall} (notCancel : call ≠ .cancel) :
    transfer.call call =
      .ok { transfer with context := transfer.context.map (·.pausedBy (decide (call = .pause))) } := by
  obtain ⟨context, isPending, requests, log⟩ := transfer
  cases context with
  | none => rfl
  | some context =>
      cases call with
      | pause => simp [Transfer.call, RequestContext.pausedBy]
      | resume result =>
          have same : context.pausedBy false = context := context.pausedBy_false
          simp only [Transfer.call, Option.map_some, reduceCtorEq, decide_false, same]
          split
          · rename_i isPaused
            rw [sendBlockwiseRequest, if_pos isPaused]
            rfl
          · rfl
      | cancel => exact absurd rfl notCancel

theorem calls_eq {transfer : Transfer} {calls : List BlockwiseCall} (noCancel : NoCancel calls) :
    transfer.calls calls = .ok { transfer with context := transfer.context.map (·.pausedBy (hasPause calls)) } := by
  unfold Transfer.calls
  induction calls generalizing transfer with
  | nil => simp [hasPause, RequestContext.pausedBy_false]
  | cons call calls ih =>
      rw [List.foldlM_cons, call_eq (noCancel call List.mem_cons_self), ok_bind,
        ih (fun other member => noCancel other (List.mem_cons_of_mem _ member))]
      simp only [Option.map_map, hasPause, List.any_cons]
      congr 3
      funext context
      exact RequestContext.pausedBy_pausedBy context _ _

/-! ## Responses -/

/-- `GG_CoapBlockwiseRequestContext_OnContinueResponse`. -/
def onContinueResponse (self : Transfer) (context : RequestContext) (response : Content) (result : SendResult) :
    Access Transfer :=
  match getBlockInfo response.options optionBlock1 0 with
  | .error _ => return self.notifyErrorAndTerminate .coapInvalidResponse
  | .ok blockInfo =>
      let context := { context with block1Info :=
        { context.block1Info with
          offset := context.block1Info.offset + context.block1PayloadSize
          size := min context.block1Info.size blockInfo.size } }
      match context.source with
      | none => .error .assertion
      | some source =>
          match context.sized source with
          | .error error => return self.notifyErrorAndTerminate error
          | .ok context => do
              let (self, _) ← self.sendBlockwiseRequest context result
              return self

/-- The BLOCK2 info of a response, or one that stands for the only block. -/
def block2InfoOf (context : RequestContext) (response : Content) : Except Error BlockInfo :=
  match getBlockInfo response.options optionBlock2 0 with
  | .ok info => if info.offset = context.block2Info.offset then .ok info else .error .coapUnexpectedBlock
  | .error error =>
      if error = .noSuchItem ∧ context.block2Info.offset = 0 then .ok ⟨0, context.block2Info.size, false⟩
      else .error .coapInvalidResponse

theorem block2InfoOf_isBlockSize {context : RequestContext} {response : Content} {info : BlockInfo}
    (isInfo : block2InfoOf context response = .ok info) (more : info.more = true) : IsBlockSize info.size := by
  unfold block2InfoOf at isInfo
  split at isInfo
  · rename_i found tells
    split at isInfo
    · rw [← Except.ok.inj isInfo]
      exact (getBlockInfo_isBlockSize tells).1
    · exact nomatch isInfo
  · split at isInfo
    · rw [← Except.ok.inj isInfo] at more
      exact nomatch more
    · exact nomatch isInfo

/-- What follows `OnResponseBlock` when the context is still there. -/
def continueBlock2 (self : Transfer) (context : RequestContext) (info : BlockInfo) (result : SendResult) :
    Access Transfer :=
  if info.more then do
    let context := { context with block2Active := true, block2Info := ⟨info.offset + info.size, info.size, false⟩ }
    let (self, _) ← self.sendBlockwiseRequest context result
    match self.context with
    | none => .error .undefined
    | some _ => return self
  else return self.destroy

/-- `GG_CoapBlockwiseRequestContext_OnResponseWithFinalResponseCode`. -/
def onFinalResponse (self : Transfer) (context : RequestContext) (response : Content)
    (reactions : List BlockwiseCall) (result : SendResult) : Access Transfer := do
  let context := { context with block1Active := false }
  match block2InfoOf context response with
  | .error error => return self.notifyErrorAndTerminate error
  | .ok info =>
      let self : Transfer := { self with context := some context, log := self.log ++ [BlockEvent.block info response.payload] }
      let self ← self.calls reactions
      match self.context with
      | none => return self
      | some context => self.continueBlock2 context info result

/-- The ETag of a response is the one of the transfer. -/
def checkEtag (context : RequestContext) (response : Content) : Except Error RequestContext :=
  match getOption response.options optionEtag with
  | .error _ => .ok context
  | .ok value =>
      if value.opaqueBytes.length > maxEtagOptionSize then .error .coapInvalidResponse
      else if context.etag ≠ [] then
        if context.etag ≠ value.opaqueBytes then .error .coapEtagMismatch else .ok context
      else .ok { context with etag := value.opaqueBytes }

/-- An ETag changes nothing else. -/
theorem checkEtag_ok {context context' : RequestContext} {response : Content}
    (checks : checkEtag context response = .ok context') : ∃ etag, context' = { context with etag := etag } := by
  unfold checkEtag at checks
  split at checks
  · exact ⟨context.etag, (Except.ok.inj checks).symm⟩
  · split at checks
    · exact nomatch checks
    · split at checks
      · split at checks
        · exact nomatch checks
        · exact ⟨context.etag, (Except.ok.inj checks).symm⟩
      · exact ⟨_, (Except.ok.inj checks).symm⟩

/-- `GG_CoapBlockwiseRequestContext_OnResponse`. -/
def onResponse (self : Transfer) (response : Content) (reactions : List BlockwiseCall) (result : SendResult) :
    Access Transfer :=
  match self.context with
  | none => return self
  | some context =>
      let self := { self with isPending := false }
      match checkEtag context response with
      | .error error => return self.notifyErrorAndTerminate error
      | .ok context =>
          if response.code = codeContinue then self.onContinueResponse context response result
          else self.onFinalResponse context response reactions result

/-- `GG_CoapBlockwiseRequestContext_OnError`. -/
def onError (self : Transfer) (error : Error) : Transfer :=
  match self.context with
  | none => self
  | some _ => self.notifyErrorAndTerminate error

end Transfer

/-! ## A client and a server -/

/-- The calls that the application makes while the client waits for a response, and those that
    it makes inside `OnResponseBlock` when the response has come. -/
structure Turn where
  outside : List BlockwiseCall
  inside : List BlockwiseCall
  deriving Repr, DecidableEq

/-- The application calls nothing. -/
def Turn.quiet : Turn := ⟨[], []⟩

namespace Transfer

/-- A server answers what is pending; what it says may depend on all the requests so far. Every
    sub-request is accepted by the endpoint. -/
def turn (self : Transfer) (server : List SubRequest → Option Content) (turn : Turn) : Access Transfer := do
  let self ← self.calls turn.outside
  match self.isPending, server self.requests with
  | true, some response => self.onResponse response turn.inside .pending
  | _, _ => return self

def turns (self : Transfer) (server : List SubRequest → Option Content) (schedule : Nat → Turn) : Nat → Access Transfer
  | 0 => return self
  | count + 1 => do
      let self ← self.turns server schedule count
      self.turn server (schedule count)

end Transfer

end GoldenGate.Coap
