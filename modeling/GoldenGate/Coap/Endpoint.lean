import GoldenGate.Coap.Block
import GoldenGate.Common.Utils

/-! # The client side of an endpoint

The embedding of what `gg_coap_endpoint.c` does with the requests it sends. The endpoint calls
out to the sink when it sends, and to the listeners of its requests; whoever is called may call
the endpoint again. So every function is cut at its call-outs, and the calls that wait for a
call-out to return are a stack of frames. A context that is used through a pointer after a
call-out has to be there still.
-/

namespace GoldenGate.Coap

open Memory

/-- `GG_CoapRequestState`. -/
inductive RequestState where
  | readyToSend
  | waitingForAck
  | acked
  | cancelled
  deriving Repr, DecidableEq

/-- `GG_CoapRequestContext`. The timer is gone or scheduled or not, and the listener is known by the
    handle. -/
structure CoapRequestContext where
  handle : Nat
  token : List UInt8
  state : RequestState
  resendTimer : Option Bool
  resendTimeout : UInt32
  resendCount : UInt8
  maxResendCount : UInt8
  deriving Repr, DecidableEq

/-- `GG_CoapEndpoint`. -/
structure CoapEndpoint where
  tokenPrefix : List UInt8
  tokenCounter : Nat
  requests : List CoapRequestContext
  locked : Bool
  connectionSink : Bool
  deriving Repr, DecidableEq

/-- What the endpoint looks at in a message that it receives. -/
structure Reply where
  type : MessageType
  code : UInt8
  token : List UInt8
  deriving Repr, DecidableEq

/-- Where a walk of `GG_CoapEndpoint_SendPendingRequests` goes on after a call-out. Nothing is
    unlinked while a walk is going on, so that places in the list stand for nodes. -/
structure Walk where
  next : Option Nat
  wasLocked : Bool
  deriving Repr, DecidableEq

/-- A call that waits for a call-out: for `GG_DataSink_PutData`, for `OnError` after the sink has
    failed, for `OnAck`, for `OnResponse` or `OnError` after a message, or for `OnError` after the
    last timeout. -/
inductive Frame where
  | putting (handle : Nat) (walk : Walk)
  | failing (handle : Nat) (walk : Walk)
  | acking (handle : Nat) (reply : Reply) (wasLocked : Bool)
  | responding (handle : Nat) (wasLocked : Bool)
  | timingOut (handle : Nat)
  deriving Repr, DecidableEq

/-- What `GG_DataSink_PutData` returns. -/
inductive PutResult where
  | success
  | wouldBlock
  | failure
  deriving Repr, DecidableEq

/-- What has happened to requests: they were made, given to the sink and taken by it, the
    listeners were called, and the application has cancelled them. -/
inductive EndpointEvent where
  | created (handle : Nat) (maxResendCount : Nat)
  | put (handle : Nat)
  | sent (handle : Nat)
  | ack (handle : Nat)
  | response (handle : Nat)
  | error (handle : Nat) (error : Error)
  | cancel (handle : Nat)
  deriving Repr, DecidableEq

/-- An endpoint in the middle of a run, with the innermost frame first. -/
structure EndpointRun where
  endpoint : CoapEndpoint
  frames : List Frame
  history : List EndpointEvent
  deriving Repr, DecidableEq

namespace CoapRequestContext

/-- The timer is not scheduled any more when it fires. -/
def timerDue (self : CoapRequestContext) : CoapRequestContext := { self with resendTimer := some false }

/-- We're ready to send again, with twice the time, and the timer is scheduled again. -/
def resending (self : CoapRequestContext) : CoapRequestContext :=
  { self with
    resendTimeout := self.resendTimeout * 2
    state := .readyToSend
    resendTimer := some true
    resendCount := self.resendCount + 1 }

/-- A message acknowledges a request that was not acknowledged, unless it is an RST. -/
def acknowledges (self : CoapRequestContext) (reply : Reply) : Bool :=
  (self.state = .readyToSend || self.state = .waitingForAck) && reply.type ≠ .rst

/-- The context after a message has come: the resend timer is destroyed. -/
def answered (self : CoapRequestContext) (reply : Reply) : CoapRequestContext :=
  { self with
    state := if self.acknowledges reply then .acked else self.state
    resendTimer := none }

end CoapRequestContext

namespace CoapEndpoint

/-- `GG_CoapEndpoint_Create`. -/
def create (tokenPrefix : List UInt8) (tokenCounter : Nat) (connectionSink : Bool) : CoapEndpoint :=
  ⟨tokenPrefix, tokenCounter, [], false, connectionSink⟩

/-- The context of a request. -/
def find (self : CoapEndpoint) (handle : Nat) : Option CoapRequestContext :=
  self.requests.find? (·.handle = handle)

def modify (self : CoapEndpoint) (handle : Nat) (f : CoapRequestContext → CoapRequestContext) : CoapEndpoint :=
  { self with requests := self.requests.map fun context => if context.handle = handle then f context else context }

def setState (self : CoapEndpoint) (handle : Nat) (state : RequestState) : CoapEndpoint :=
  self.modify handle ({ · with state := state })

/-- `GG_CoapRequestContext_Cancel`. -/
def cancel (self : CoapEndpoint) (handle : Nat) : CoapEndpoint :=
  if self.locked then self.setState handle .cancelled
  else { self with requests := self.requests.filter (·.handle ≠ handle) }

/-- The end of a walk over the requests: `GG_CoapEndpoint_CleanupCancelledRequests`, if the
    requests were not locked before it. -/
def release (self : CoapEndpoint) (wasLocked : Bool) : CoapEndpoint :=
  if wasLocked then self
  else { self with locked := false, requests := self.requests.filter (·.state ≠ .cancelled) }

/-- The next place, from some place on, of a request that is ready to be sent. -/
def nextReady (self : CoapEndpoint) (index : Nat) : Option Nat :=
  if self.connectionSink then ((self.requests.drop index).findIdx? (·.state = .readyToSend)).map (index + ·)
  else none

end CoapEndpoint

/-- An ACK-only empty message. -/
def Reply.isEmptyAck (self : Reply) : Bool := self.type = .ack && self.code = 0

/-- What the listener is told of a message. -/
def Reply.event (self : Reply) (handle : Nat) : EndpointEvent :=
  if self.type = .rst then .error handle .coapReset
  else if self.code = 0 then .error handle .coapUnexpectedMessage
  else .response handle

namespace EndpointRun

def log (self : EndpointRun) (event : EndpointEvent) : EndpointRun := { self with history := self.history ++ [event] }

def push (self : EndpointRun) (frame : Frame) : EndpointRun := { self with frames := frame :: self.frames }

/-- A context that is used through a pointer. -/
def deref (self : EndpointRun) (handle : Nat) : Access CoapRequestContext :=
  match self.endpoint.find handle with
  | some context => .ok context
  | none => .error .undefined

def release (self : EndpointRun) (wasLocked : Bool) : EndpointRun :=
  { self with endpoint := self.endpoint.release wasLocked }

/-- The loop of `GG_CoapEndpoint_SendPendingRequests` until the next request is given to the sink. -/
def walkFrom (self : EndpointRun) (index : Nat) (wasLocked : Bool) : EndpointRun :=
  match self.endpoint.nextReady index with
  | none => self.release wasLocked
  | some place =>
      match self.endpoint.requests[place]? with
      | none => self.release wasLocked
      | some context =>
          let next := if place + 1 < self.endpoint.requests.length then some (place + 1) else none
          (self.log (.put context.handle)).push (.putting context.handle ⟨next, wasLocked⟩)

def continueWalk (self : EndpointRun) (walk : Walk) : EndpointRun :=
  match walk.next with
  | none => self.release walk.wasLocked
  | some index => self.walkFrom index walk.wasLocked

/-- `GG_CoapEndpoint_SendPendingRequests`. -/
def sendPendingRequests (self : EndpointRun) : EndpointRun :=
  let wasLocked := self.endpoint.locked
  { self with endpoint := { self.endpoint with locked := true } }.walkFrom 0 wasLocked

/-- `GG_CoapEndpoint_SendRequest`. The time before the first resend and the number of resends come
    from the client parameters, or are the default ones. -/
def sendRequest (self : EndpointRun) (resendTimeout : UInt32) (maxResendCount : Nat) : EndpointRun :=
  let token := self.endpoint.tokenPrefix ++ bytesFromInt32Be (UInt32.ofNat self.endpoint.tokenCounter)
  let handle := self.endpoint.tokenCounter + 1
  let context : CoapRequestContext := {
    handle := handle
    token := token
    state := .readyToSend
    resendTimer := some true
    resendTimeout := resendTimeout
    resendCount := 0
    maxResendCount := UInt8.ofNat maxResendCount }
  let self := self.log (.created handle maxResendCount)
  { self with endpoint :=
    { self.endpoint with tokenCounter := handle, requests := self.endpoint.requests ++ [context] } }.sendPendingRequests

/-- `GG_CoapEndpoint_CancelRequest`, which finds the request or not. -/
def cancelRequest (self : EndpointRun) (handle : Nat) : EndpointRun × Bool :=
  match self.endpoint.find handle with
  | none => (self, false)
  | some _ => ({ self with endpoint := self.endpoint.cancel handle }, true)

/-- `GG_CoapRequestContext_OnTimerFired`, for a timer that is scheduled. -/
def onTimerFired (self : EndpointRun) (handle : Nat) : EndpointRun :=
  match self.endpoint.find handle with
  | none => self
  | some context =>
      if context.resendTimer ≠ some true then self
      else if context.resendCount < context.maxResendCount then
        { self with endpoint := self.endpoint.modify handle .resending }.sendPendingRequests
      else
        let self := self.log (.error handle .timeout)
        { self with endpoint := self.endpoint.modify handle .timerDue }.push (.timingOut handle)

/-! ## Messages -/

/-- The part of `GG_CoapEndpoint_OnResponse` after the ACK. -/
def notify (self : EndpointRun) (handle : Nat) (reply : Reply) (wasLocked : Bool) : EndpointRun :=
  if reply.isEmptyAck then self.release wasLocked
  else (self.log (reply.event handle)).push (.responding handle wasLocked)

/-- `GG_CoapEndpoint_OnResponse`. -/
def onResponse (self : EndpointRun) (reply : Reply) : EndpointRun :=
  let wasLocked := self.endpoint.locked
  let self := { self with endpoint := { self.endpoint with locked := true } }
  match self.endpoint.requests.find? fun context : CoapRequestContext => context.token = reply.token with
  | none => self.release wasLocked
  | some context =>
      let self := { self with endpoint := self.endpoint.modify context.handle (·.answered reply) }
      if context.acknowledges reply then
        (self.log (.ack context.handle)).push (.acking context.handle reply wasLocked)
      else self.notify context.handle reply wasLocked

/-- `GG_CoapEndpoint_PutData`. A request from the other side does not change those of this side. -/
def putData (self : EndpointRun) (reply : Reply) : EndpointRun :=
  if messageCodeClass reply.code = codeClassRequest then self else self.onResponse reply

/-! ## Call-outs -/

/-- The call-out of the innermost frame returns, with a result if it was to the sink. -/
def resume (self : EndpointRun) (result : PutResult) : Access EndpointRun :=
  match self.frames with
  | [] => return self
  | .putting handle walk :: frames =>
      let self := { self with frames := frames }
      match result with
      | .wouldBlock => return self.release walk.wasLocked
      | .failure => do
          let _ ← self.deref handle
          return (self.log (.error handle .coapSendFailure)).push (.failing handle walk)
      | .success => do
          let _ ← self.deref handle
          let self := { self with endpoint := self.endpoint.setState handle .waitingForAck }
          return (self.log (.sent handle)).continueWalk walk
  | .failing handle walk :: frames =>
      let self := { self with frames := frames }
      return (self.cancelRequest handle).1.continueWalk walk
  | .acking handle reply wasLocked :: frames => do
      let self := { self with frames := frames }
      let _ ← self.deref handle
      return self.notify handle reply wasLocked
  | .responding handle wasLocked :: frames => do
      let self := { self with frames := frames }
      let _ ← self.deref handle
      return { self with endpoint := self.endpoint.cancel handle }.release wasLocked
  | .timingOut handle :: frames =>
      let self := { self with frames := frames }
      return (self.cancelRequest handle).1

end EndpointRun

/-! ## Runs -/

/-- What is done with an endpoint, from outside or inside of a call-out. -/
inductive EndpointStep where
  | sendRequest (resendTimeout : UInt32) (maxResendCount : Nat)
  | cancelRequest (handle : Nat)
  | putData (reply : Reply)
  | timerFired (handle : Nat)
  | canPut
  | setDataSink (connected : Bool)
  | resume (result : PutResult)
  deriving Repr, DecidableEq

namespace EndpointRun

def step (self : EndpointRun) : EndpointStep → Access EndpointRun
  | .sendRequest resendTimeout maxResendCount => return self.sendRequest resendTimeout maxResendCount
  | .cancelRequest handle =>
      match self.cancelRequest handle with
      | (self, true) => return self.log (.cancel handle)
      | (self, false) => return self
  | .putData reply => return self.putData reply
  | .timerFired handle => return self.onTimerFired handle
  | .canPut => return self.sendPendingRequests
  | .setDataSink connected =>
      let self := { self with endpoint := { self.endpoint with connectionSink := connected } }
      return if connected then self.sendPendingRequests else self
  | .resume result => self.resume result

def run (self : EndpointRun) (steps : List EndpointStep) : Access EndpointRun := steps.foldlM step self

/-- An endpoint that was just created. -/
def create (tokenPrefix : List UInt8) (tokenCounter : Nat) (connectionSink : Bool) : EndpointRun :=
  ⟨CoapEndpoint.create tokenPrefix tokenCounter connectionSink, [], []⟩

end EndpointRun

end GoldenGate.Coap
