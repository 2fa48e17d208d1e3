import Mathlib.Logic.Function.Basic
import GoldenGate.Coap.Blockwise

/-! # The contexts of blockwise requests

The client of `gg_coap_blockwise.c` again, with all the contexts of an endpoint in a map. A context
that is used after it was destroyed is absent from the map. The client calls the endpoint, which may
tell listeners before it returns, and the listeners of its own requests, which may call the client; so
its functions are cut at these calls. What is sent is in the model of a single request.
-/

namespace GoldenGate.Coap

open Memory

/-- `GG_CoapBlockwiseRequestContext`, with the monitor that its destruction is told to. -/
structure BlockwiseContext where
  request : RequestContext
  hasListener : Bool
  pendingRequest : Option Nat
  destroyMonitor : Option Nat

/-- A sub-request that the endpoint has accepted: the blockwise request that listens, and whether the
    listener was told how it ended or the sub-request was cancelled. -/
structure AcceptedRequest where
  listener : Nat
  ended : Bool
  deriving Repr, DecidableEq

/-- A call of the client that waits: for the endpoint, after `GG_CoapEndpoint_SendBlockwiseRequest` has sent
    the first sub-request, or `OnResponseWithFinalResponseCode` the next one, or some function one which it
    leaves alone then; or for a listener, with the monitor on the stack. -/
inductive ClientCall where
  | sendingFirst (handle : Nat) (wantsHandle : Bool)
  | sendingNext (handle : Nat)
  | sendingLast (handle : Nat)
  | tellingBlock (handle monitor : Nat) (destroyed : Bool) (info : BlockInfo)
  | tellingError (handle monitor : Nat) (destroyed : Bool)
  deriving Repr, DecidableEq

/-- The blockwise requests of an endpoint, with the innermost call first. -/
structure BlockwiseClient where
  contexts : Nat → Option BlockwiseContext
  handleBase : Nat
  accepted : List AcceptedRequest
  calls : List ClientCall

/-- The monitor of a context, if it has one, is told that the context is destroyed. -/
def ClientCall.notice (monitor : Option Nat) : ClientCall → ClientCall
  | .tellingBlock handle own destroyed info => .tellingBlock handle own (destroyed || some own = monitor) info
  | .tellingError handle own destroyed => .tellingError handle own (destroyed || some own = monitor)
  | call => call

namespace BlockwiseClient

/-- The endpoint has no requests yet. -/
def create (handleBase : Nat) : BlockwiseClient := ⟨fun _ => none, handleBase, [], []⟩

/-- A context that is used through a pointer. -/
def deref (self : BlockwiseClient) (handle : Nat) : Access BlockwiseContext :=
  match self.contexts handle with
  | some context => .ok context
  | none => .error .undefined

def set (self : BlockwiseClient) (handle : Nat) (context : BlockwiseContext) : BlockwiseClient :=
  { self with contexts := Function.update self.contexts handle (some context) }

def push (self : BlockwiseClient) (call : ClientCall) : BlockwiseClient := { self with calls := call :: self.calls }

/-- The listener of a sub-request is told how it ended, or the sub-request is cancelled. -/
def conclude (self : BlockwiseClient) : Option Nat → BlockwiseClient
  | some number => { self with accepted := self.accepted.modify number ({ · with ended := true }) }
  | none => self

/-- `GG_CoapBlockwiseRequestContext_Destroy`. -/
def destroy (self : BlockwiseClient) (handle : Nat) : Access BlockwiseClient := do
  let context ← self.deref handle
  let self := { self with contexts := Function.update self.contexts handle none }.conclude context.pendingRequest
  return { self with calls := self.calls.map (ClientCall.notice context.destroyMonitor) }

/-- `GG_CoapBlockwiseRequestContext_NotifyErrorAndTerminate`, until the listener is called. -/
def notifyErrorAndTerminate (self : BlockwiseClient) (handle : Nat) : Access BlockwiseClient := do
  let context ← self.deref handle
  if context.hasListener then
    let monitor := self.calls.length
    return (self.set handle { context with destroyMonitor := some monitor }).push (.tellingError handle monitor false)
  else self.destroy handle

/-- The part of it after `OnError`. -/
def errorTold (self : BlockwiseClient) (handle : Nat) (destroyed : Bool) : Access BlockwiseClient :=
  if destroyed then return self
  else do
    let context ← self.deref handle
    (self.set handle { context with destroyMonitor := none }).destroy handle

/-- `GG_CoapBlockwiseRequestContext_SendBlockwiseRequest`, with what the endpoint says to the sub-request. It
    returns at once, or the endpoint has accepted the sub-request and sends what is pending. -/
def sendBlockwiseRequest (self : BlockwiseClient) (handle : Nat) (answer : Except Error Unit) (call : ClientCall) :
    Access (BlockwiseClient × Option (Except Error Unit)) := do
  let context ← self.deref handle
  if context.request.paused then return (self, some (.ok ()))
  else match answer with
    | .error error => return (self, some (.error error))
    | .ok () =>
        let number := self.accepted.length
        let self := self.set handle { context with pendingRequest := some number }
        let self : BlockwiseClient := { self with accepted := self.accepted ++ [⟨handle, false⟩] }
        return (self.push call, none)

/-! ## Requests -/

/-- The end of `GG_CoapEndpoint_SendBlockwiseRequest`, which tells the handle if the caller wants it. -/
def firstSent (self : BlockwiseClient) (handle : Nat) (wantsHandle : Bool) (result : Except Error Unit) :
    Access BlockwiseClient :=
  match result with
  | .error _ => self.destroy handle
  | .ok () =>
      if wantsHandle then do
        let _ ← self.deref handle
        return self
      else return self

/-- `GG_CoapEndpoint_SendBlockwiseRequest`. -/
def request (self : BlockwiseClient) (method : Method) (options : List MessageOption) (source : Option BlockSource)
    (preferredBlockSize : Nat) (hasListener wantsHandle : Bool) (answer : Except Error Unit) : Access BlockwiseClient := do
  assert (¬ (source.isSome ∧ method ≠ .put ∧ method ≠ .post))
  let handle := self.handleBase
  let self := { self with handleBase := handle + 1 }.set handle
    ⟨Transfer.initialContext method options source preferredBlockSize, hasListener, none, none⟩
  let (self, sent) ← self.sendBlockwiseRequest handle answer (.sendingFirst handle wantsHandle)
  match sent with
  | some result => self.firstSent handle wantsHandle result
  | none => return self

/-- `GG_CoapEndpoint_SetBlockwiseRequestPausedState`. -/
def setPaused (self : BlockwiseClient) (handle : Nat) (paused : Bool) (answer : Except Error Unit) : Access BlockwiseClient :=
  match self.contexts handle with
  | none => return self
  | some context =>
      if paused then return self.set handle { context with request := { context.request with paused := true } }
      else if context.request.paused then do
        let (self, _) ← self.sendBlockwiseRequest handle answer (.sendingLast handle)
        return self
      else return self

/-- `GG_CoapEndpoint_CancelBlockwiseRequest`. -/
def cancel (self : BlockwiseClient) (handle : Nat) : Access BlockwiseClient :=
  match self.contexts handle with
  | none => return self
  | some _ => self.destroy handle

/-! ## Responses -/

/-- The context that asks for the block after the one that a 2.31 response has acknowledged. -/
def nextBlock1 (request : RequestContext) (blockInfo : BlockInfo) : RequestContext :=
  { request with block1Info :=
    { request.block1Info with
      offset := request.block1Info.offset + request.block1PayloadSize
      size := min request.block1Info.size blockInfo.size } }

/-- `GG_CoapBlockwiseRequestContext_OnContinueResponse`. -/
def onContinueResponse (self : BlockwiseClient) (handle : Nat) (context : BlockwiseContext) (response : Content)
    (answer : Except Error Unit) : Access BlockwiseClient :=
  match getBlockInfo response.options optionBlock1 0 with
  | .error _ => self.notifyErrorAndTerminate handle
  | .ok blockInfo =>
      let request := nextBlock1 context.request blockInfo
      match request.source with
      | none => .error .assertion
      | some source =>
          match request.sized source with
          | .error _ => (self.set handle { context with request := request }).notifyErrorAndTerminate handle
          | .ok request => do
              let self := self.set handle { context with request := request }
              let (self, _) ← self.sendBlockwiseRequest handle answer (.sendingLast handle)
              return self

/-- The end of `OnResponseWithFinalResponseCode`: the request is done when no block transfer is active. -/
def checkDone (self : BlockwiseClient) (handle : Nat) : Access BlockwiseClient := do
  let context ← self.deref handle
  if !context.request.block1Active && !context.request.block2Active then self.destroy handle else return self

/-- What follows `OnResponseBlock` when the context is still there. -/
def continueBlock2 (self : BlockwiseClient) (handle : Nat) (info : BlockInfo) (answer : Except Error Unit) :
    Access BlockwiseClient := do
  let context ← self.deref handle
  if info.more then
    let self := self.set handle { context with
      request := { context.request with block2Active := true, block2Info := ⟨info.offset + info.size, info.size, false⟩ } }
    let (self, sent) ← self.sendBlockwiseRequest handle answer (.sendingNext handle)
    match sent with
    | some _ => self.checkDone handle
    | none => return self
  else
    (self.set handle { context with request := { context.request with block2Active := false } }).checkDone handle

/-- The listener has returned from `OnResponseBlock`. -/
def blockTold (self : BlockwiseClient) (handle : Nat) (destroyed : Bool) (info : BlockInfo) (answer : Except Error Unit) :
    Access BlockwiseClient :=
  if destroyed then return self
  else do
    let context ← self.deref handle
    (self.set handle { context with destroyMonitor := none }).continueBlock2 handle info answer

/-- `GG_CoapBlockwiseRequestContext_OnResponseWithFinalResponseCode`, until the listener is called. -/
def onFinalResponse (self : BlockwiseClient) (handle : Nat) (context : BlockwiseContext) (response : Content)
    (answer : Except Error Unit) : Access BlockwiseClient :=
  let context := { context with request := { context.request with block1Active := false } }
  let self := self.set handle context
  match Transfer.block2InfoOf context.request response with
  | .error _ => self.notifyErrorAndTerminate handle
  | .ok info =>
      if context.hasListener then
        let monitor := self.calls.length
        return (self.set handle { context with destroyMonitor := some monitor }).push (.tellingBlock handle monitor false info)
      else self.continueBlock2 handle info answer

/-- `GG_CoapBlockwiseRequestContext_OnResponse`, for the response to a sub-request. -/
def onResponse (self : BlockwiseClient) (number : Nat) (response : Content) (answer : Except Error Unit) :
    Access BlockwiseClient :=
  match self.accepted[number]? with
  | none => return self
  | some sub => do
      let self := self.conclude (some number)
      let handle := sub.listener
      let context ← self.deref handle
      let context := { context with pendingRequest := none }
      let self := self.set handle context
      match Transfer.checkEtag context.request response with
      | .error _ => self.notifyErrorAndTerminate handle
      | .ok request =>
          let context := { context with request := request }
          let self := self.set handle context
          if response.code = codeContinue then self.onContinueResponse handle context response answer
          else self.onFinalResponse handle context response answer

/-- `GG_CoapBlockwiseRequestContext_OnError`, for a sub-request that has failed. -/
def onError (self : BlockwiseClient) (number : Nat) : Access BlockwiseClient :=
  match self.accepted[number]? with
  | none => return self
  | some sub => (self.conclude (some number)).notifyErrorAndTerminate sub.listener

/-- What the innermost call has called returns. -/
def returns (self : BlockwiseClient) (answer : Except Error Unit) : Access BlockwiseClient :=
  match self.calls with
  | [] => return self
  | call :: calls =>
      let self := { self with calls := calls }
      match call with
      | .sendingFirst handle wantsHandle => self.firstSent handle wantsHandle (.ok ())
      | .sendingNext handle => self.checkDone handle
      | .sendingLast _ => return self
      | .tellingBlock handle _ destroyed info => self.blockTold handle destroyed info answer
      | .tellingError handle _ destroyed => self.errorTold handle destroyed

end BlockwiseClient

/-! ## Runs -/

/-- What the application and the endpoint do, inside or outside of the calls that the client makes. What
    the endpoint says to the next sub-request, if there is one, is given with it. -/
inductive ClientStep where
  | request (method : Method) (options : List MessageOption) (source : Option BlockSource) (preferredBlockSize : Nat)
      (hasListener wantsHandle : Bool) (answer : Except Error Unit)
  | setPaused (handle : Nat) (paused : Bool) (answer : Except Error Unit)
  | cancel (handle : Nat)
  | response (number : Nat) (response : Content) (answer : Except Error Unit)
  | error (number : Nat)
  | returns (answer : Except Error Unit)

/-- The call uses the context of the request again, whatever has become of it. -/
def ClientCall.expects (handle : Nat) : ClientCall → Bool
  | .sendingFirst handle' wantsHandle => wantsHandle && handle' = handle
  | .sendingNext handle' => handle' = handle
  | .sendingLast _ | .tellingBlock _ _ _ _ | .tellingError _ _ _ => false

/-- The response ends the request: it does not fit, or there are no more blocks. -/
def RequestContext.endsWith (self : RequestContext) (response : Content) : Bool :=
  match Transfer.checkEtag self response with
  | .error _ => true
  | .ok request =>
      if response.code = codeContinue then
        match getBlockInfo response.options optionBlock1 0 with
        | .error _ => true
        | .ok blockInfo => request.source.any fun source =>
            ((BlockwiseClient.nextBlock1 request blockInfo).sized source).isOk = false
      else
        match Transfer.block2InfoOf { request with block1Active := false } response with
        | .error _ => true
        | .ok info => !info.more

namespace BlockwiseClient

def step (self : BlockwiseClient) : ClientStep → Access BlockwiseClient
  | .request method options source preferredBlockSize hasListener wantsHandle answer =>
      self.request method options source preferredBlockSize hasListener wantsHandle answer
  | .setPaused handle paused answer => self.setPaused handle paused answer
  | .cancel handle => self.cancel handle
  | .response number response answer => self.onResponse number response answer
  | .error number => self.onError number
  | .returns answer => self.returns answer

def run (self : BlockwiseClient) (steps : List ClientStep) : Access BlockwiseClient := steps.foldlM step self

/-- A call of the client waits that uses the context of the request when it goes on. -/
def Expects (self : BlockwiseClient) (handle : Nat) : Prop := ∃ call ∈ self.calls, call.expects handle = true

/-- A request is neither cancelled nor told its end while a call waits that uses its context, and the
    endpoint tells once how a sub-request ended, and nothing after it was cancelled. -/
def May (self : BlockwiseClient) : ClientStep → Prop
  | .cancel handle => ¬ self.Expects handle
  | .error number => ∀ sub ∈ self.accepted[number]?, sub.ended = false ∧ ¬ self.Expects sub.listener
  | .response number response _ => ∀ sub ∈ self.accepted[number]?, sub.ended = false ∧
      (self.Expects sub.listener → ∀ context ∈ self.contexts sub.listener, context.request.endsWith response = false)
  | .request _ _ _ _ _ _ _ | .setPaused _ _ _ | .returns _ => True

/-- All the steps of a run may be taken. -/
def Permits (self : BlockwiseClient) : List ClientStep → Prop
  | [] => True
  | step :: steps => self.May step ∧ ∀ next, self.step step = .ok next → next.Permits steps

instance (self : BlockwiseClient) (handle : Nat) : Decidable (self.Expects handle) :=
  inferInstanceAs (Decidable (∃ call ∈ self.calls, _))

instance (self : BlockwiseClient) : ∀ step, Decidable (self.May step)
  | .cancel handle => inferInstanceAs (Decidable (¬ self.Expects handle))
  | .error number => inferInstanceAs (Decidable (∀ sub ∈ self.accepted[number]?, sub.ended = false ∧ ¬ self.Expects sub.listener))
  | .response number response _ => inferInstanceAs (Decidable (∀ sub ∈ self.accepted[number]?, sub.ended = false ∧
      (self.Expects sub.listener → ∀ context ∈ self.contexts sub.listener, context.request.endsWith response = false)))
  | .request _ _ _ _ _ _ _ | .setPaused _ _ _ | .returns _ => .isTrue trivial

instance decidablePermits (self : BlockwiseClient) : ∀ steps, Decidable (self.Permits steps)
  | [] => .isTrue trivial
  | _ :: steps =>
      have := fun (next : BlockwiseClient) => decidablePermits next steps
      inferInstanceAs (Decidable (_ ∧ _))

end BlockwiseClient

end GoldenGate.Coap
