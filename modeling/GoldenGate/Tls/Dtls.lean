import GoldenGate.Common.Io
import GoldenGate.Common.Result
import GoldenGate.Lib.Dialogues

/-! # DTLS

The embedding of `gg_mbedtls_tls.c`. A DTLS object stands between a user and a transport, either of which has a sink
for it and puts data into it. The TLS library is a parameter: each of its functions is a dialogue, in which it sends
and receives datagrams through the two callbacks of the object. The sinks do not call back into the object.
-/

namespace GoldenGate.Tls

open Memory Dialogues

/-! ## The library -/

/-- The results of the library that are told apart. -/
inductive SslError where
  | wantRead
  | wantWrite
  | allocFailed
  | fatalAlertMessage
  | unknownIdentity
  | illegalParameter
  | decodeError
  | badHsClientHello
  | badHsServerHello
  | other (code : Nat)
  deriving Repr, DecidableEq

/-- The results of the object. -/
inductive TlsError where
  | fatalAlertMessage
  | unknownIdentity
  | illegalParameter
  | decodeError
  | general (error : Error)
  deriving Repr, DecidableEq

/-- `MapErrorCode`. -/
def mapErrorCode : SslError → TlsError
  | .wantRead | .wantWrite => .general .wouldBlock
  | .allocFailed => .general .outOfMemory
  | .fatalAlertMessage => .fatalAlertMessage
  | .unknownIdentity => .unknownIdentity
  | .illegalParameter => .illegalParameter
  | .decodeError | .badHsClientHello | .badHsServerHello => .decodeError
  | .other _ => .general .failure

/-- The two callbacks of the library. -/
inductive Question where
  | send (buffer : List UInt8)
  | receive (bufferSize : Nat)
  deriving Repr, DecidableEq

/-- How much was sent, and what was received. -/
def Question.Answer : Question → Type
  | send _ => Except SslError Nat
  | receive _ => Except SslError (List UInt8)

abbrev Talk (α : Type) := Dialogue Question Question.Answer α

/-- The functions of the library on a context. -/
structure Ssl (σ : Type) where
  handshakeStep : σ → Talk (σ × Except SslError Unit)
  handshakeOver : σ → Bool
  read : σ → Nat → Talk (σ × Except SslError (List UInt8))
  write : σ → List UInt8 → Talk (σ × Except SslError Nat)
  sessionReset : σ → σ × Except SslError Unit
  maxOutRecordPayload : σ → Nat

/-! ## The object -/

/-- `GG_TlsProtocolRole`. -/
inductive Role where
  | client
  | server
  deriving Repr, DecidableEq

/-- `GG_TlsProtocolState`. -/
inductive State where
  | init
  | handshake
  | session
  | error
  deriving Repr, DecidableEq

/-- A sink: the results of the next puts, behind which it accepts everything. -/
structure Sink where
  results : List (Except Error Unit)

/-- `GG_DataSink_PutData`. -/
def Sink.putData (self : Sink) : Sink × Except Error Unit :=
  match self.results with
  | result :: results => (⟨results⟩, result)
  | [] => (self, .ok ())

/-- The user, and what the listener of the user side is going to put when it hears that it can. -/
structure UserSide where
  sink : Option Sink
  hasListener : Bool
  puts : List (List (List UInt8))
  pendingOut : Option (List UInt8)

structure TransportSide where
  sink : Option Sink
  pendingOut : Option (List UInt8)
  pendingIn : Option (List UInt8)
  pendingInOffset : Nat
  socketAddress : SocketAddress

/-- A datagram that the user side let go of. -/
structure Handed where
  data : List UInt8
  metadata : Option SocketAddress
  result : Except Error Unit

/-- What has passed the object so far: the datagrams that the library has sent, and those that the sink of the transport
    has accepted; the datagrams that came from the transport, and the bytes that the library has received; the data that
    it has read for the user, and what became of them; and the events. -/
structure Record where
  sent : List (List UInt8)
  delivered : List (List UInt8)
  arrived : List (List UInt8)
  received : List UInt8
  read : List (List UInt8)
  handed : List Handed
  events : List State

/-- `GG_DtlsProtocol`, with whether there is memory for the next buffers, behind which there always is. -/
structure DtlsProtocol (σ : Type) where
  userSide : UserSide
  transportSide : TransportSide
  role : Role
  state : State
  lastError : Option TlsError
  inAdvance : Bool
  maxDatagramSize : Nat
  sslContext : σ
  memory : List Bool
  record : Record

namespace DtlsProtocol

variable {σ : Type}

/-- `GG_DtlsProtocol_Create`, where the library can be set up. -/
def create (role : Role) (maxDatagramSize : Nat) (sslContext : σ) (memory : List Bool) (puts : List (List (List UInt8))) :
    Except TlsError (DtlsProtocol σ) :=
  if maxDatagramSize < 512 ∨ maxDatagramSize > 2048 then .error (.general .invalidParameters)
  else .ok
    { userSide := ⟨none, false, puts, none⟩
      transportSide := ⟨none, none, none, 0, ⟨0, 0⟩⟩
      role := role
      state := .init
      lastError := none
      inAdvance := false
      maxDatagramSize := maxDatagramSize
      sslContext := sslContext
      memory := memory
      record := ⟨[], [], [], [], [], [], []⟩ }

/-- `GG_DtlsProtocol_EmitStateChangeEvent`. -/
def emitStateChangeEvent (self : DtlsProtocol σ) : DtlsProtocol σ :=
  { self with record := { self.record with events := self.record.events ++ [self.state] } }

/-- Something that is done only in one state. -/
def whenIn (self : DtlsProtocol σ) (state : State) (does : DtlsProtocol σ → Access (DtlsProtocol σ)) :
    Access (DtlsProtocol σ) :=
  if self.state = state then does self else return self

/-- `GG_DynamicBuffer_Create`: whether there is a buffer. -/
def createBuffer (self : DtlsProtocol σ) : DtlsProtocol σ × Bool := ({ self with memory := self.memory.tail }, self.memory.headD true)

/-! ## The callbacks of the library -/

/-- `GG_DtlsProtocol_TransportSide_TryToFlush`. -/
def transportTryToFlush (self : DtlsProtocol σ) : Access (DtlsProtocol σ) :=
  match self.transportSide.pendingOut with
  | none => return self
  | some data =>
      match self.transportSide.sink with
      | none => .error .undefined
      | some sink =>
          match sink.putData with
          | (sink, .ok _) => return { self with
              transportSide := { self.transportSide with sink := some sink, pendingOut := none }
              record := { self.record with delivered := self.record.delivered ++ [data] } }
          | (sink, .error _) => return { self with transportSide := { self.transportSide with sink := some sink } }

/-- `GG_DtlsProtocol_Send`. -/
def send (self : DtlsProtocol σ) (buffer : List UInt8) : Access (DtlsProtocol σ × Except SslError Nat) := do
  if self.transportSide.sink.isNone then return (self, .ok 0)
  if buffer.length = 0 then return (self, .ok 0)
  if self.transportSide.pendingOut.isSome then return (self, .error .wantWrite)
  let (self, created) := self.createBuffer
  if ¬ created then return (self, .error .allocFailed)
  let self ← { self with
    transportSide := { self.transportSide with pendingOut := some buffer }
    record := { self.record with sent := self.record.sent ++ [buffer] } }.transportTryToFlush
  return (self, .ok buffer.length)

/-- `GG_DtlsProtocol_Receive`. -/
def receive (self : DtlsProtocol σ) (bufferSize : Nat) : Access (DtlsProtocol σ × Except SslError (List UInt8)) :=
  match self.transportSide.pendingIn with
  | none => return (self, .error .wantRead)
  | some pendingIn => do
      assert (pendingIn.length ≥ self.transportSide.pendingInOffset)
      let bytesToCopy := min bufferSize (pendingIn.length - self.transportSide.pendingInOffset)
      let bytes ← loadBytes pendingIn self.transportSide.pendingInOffset bytesToCopy
      let pendingInOffset := self.transportSide.pendingInOffset + bytesToCopy
      let self := { self with record := { self.record with received := self.record.received ++ bytes } }
      if pendingInOffset = pendingIn.length then
        return ({ self with transportSide := { self.transportSide with pendingIn := none, pendingInOffset := 0 } }, .ok bytes)
      else return ({ self with transportSide := { self.transportSide with pendingInOffset := pendingInOffset } }, .ok bytes)

def answer : (question : Question) → DtlsProtocol σ → Access (DtlsProtocol σ × question.Answer)
  | .send buffer, self => self.send buffer
  | .receive bufferSize, self => self.receive bufferSize

/-- A function of the library is called. -/
def call {α : Type} (self : DtlsProtocol σ) (function : Talk (σ × α)) : Access (DtlsProtocol σ × α) := do
  let (self, sslContext, result) ← function.talk answer self
  return ({ self with sslContext := sslContext }, result)

/-! ## The user side -/

variable (ssl : Ssl σ) (turns : Nat)

/-- `GG_DtlsProtocol_UserSide_TryToFlush`. -/
def userTryToFlush (self : DtlsProtocol σ) : Access (DtlsProtocol σ) :=
  match self.userSide.pendingOut with
  | none => return self
  | some data =>
      let metadata :=
        if self.transportSide.socketAddress.port ≠ 0 then some self.transportSide.socketAddress else none
      match self.userSide.sink with
      | none => .error .undefined
      | some sink =>
          match sink.putData with
          | (sink, .error .wouldBlock) => return { self with userSide := { self.userSide with sink := some sink } }
          | (sink, result) => return { self with
              userSide := { self.userSide with sink := some sink, pendingOut := none }
              record := { self.record with handed := self.record.handed ++ [⟨data, metadata, result⟩] } }

/-- The loop in `GG_DtlsProtocol_UserSide_PumpData`, with a number of turns. -/
def pumpWhileAccepted : Nat → DtlsProtocol σ → Access (DtlsProtocol σ)
  | 0, _ => .error .diverges
  | turns + 1, self =>
      if self.userSide.pendingOut.isSome then return self
      else do
        let (self, created) := self.createBuffer
        if ¬ created then return self
        let (self, bytesRead) ← self.call (ssl.read self.sslContext self.maxDatagramSize)
        match bytesRead with
        | .error _ | .ok [] => return self
        | .ok data => do
            let self ← { self with
              userSide := { self.userSide with pendingOut := some data }
              record := { self.record with read := self.record.read ++ [data] } }.userTryToFlush
            pumpWhileAccepted turns self

/-- `GG_DtlsProtocol_UserSide_PumpData`. -/
def userPumpData (self : DtlsProtocol σ) : Access (DtlsProtocol σ) := do
  if self.userSide.sink.isNone then return self
  let self ← self.userTryToFlush
  pumpWhileAccepted ssl turns self

/-- `GG_DtlsProtocol_UserSide_PutData`. Sizes are compared as integers of 32 bits. -/
def userPutData (self : DtlsProtocol σ) (data : List UInt8) : Access (DtlsProtocol σ × Except TlsError Unit) := do
  if self.state = .error then return (self, .error (.general .eos))
  if self.state ≠ .session then return (self, .error (.general .wouldBlock))
  if Int.bmod data.length (2 ^ 32) > Int.bmod (ssl.maxOutRecordPayload self.sslContext) (2 ^ 32) then
    return (self, .error (.general .outOfRange))
  if self.transportSide.pendingOut.isSome then return (self, .error (.general .wouldBlock))
  let (self, result) ← self.call (ssl.write self.sslContext data)
  match result with
  | .error .wantRead | .error .wantWrite => return (self, .error (.general .wouldBlock))
  | .error e => return (self, .error (mapErrorCode e))
  | .ok size => return (self, if size ≠ data.length then .error (.general .internal) else .ok ())

/-- `GG_DataSinkListener_OnCanPut` of the listener of the user side, which puts some data. -/
def notifyUser (self : DtlsProtocol σ) : Access (DtlsProtocol σ) :=
  if self.userSide.hasListener then
    (self.userSide.puts.headD []).foldlM (fun self data => Prod.fst <$> self.userPutData ssl data)
      { self with userSide := { self.userSide with puts := self.userSide.puts.tail } }
  else return self

/-- `GG_DtlsProtocol_UserSide_SetListener`. -/
def userSetListener (self : DtlsProtocol σ) (hasListener : Bool) : DtlsProtocol σ :=
  { self with userSide := { self.userSide with hasListener := hasListener } }

/-- `GG_DtlsProtocol_UserSide_SetDataSink`. -/
def userSetDataSink (self : DtlsProtocol σ) (sink : Option Sink) : Access (DtlsProtocol σ) :=
  let self := { self with userSide := { self.userSide with sink := sink } }
  if sink.isSome ∧ self.state = .session then self.userPumpData ssl turns else return self

/-! ## The handshake -/

/-- `GG_DtlsProtocol_Reset`. -/
def reset (self : DtlsProtocol σ) : DtlsProtocol σ × Except TlsError Unit :=
  if self.state = .init then (self, .ok ())
  else
    match ssl.sessionReset self.sslContext with
    | (sslContext, .error e) => ({ self with sslContext := sslContext }, .error (mapErrorCode e))
    | (sslContext, .ok _) =>
        ({ self with sslContext := sslContext, lastError := none, state := .init }.emitStateChangeEvent, .ok ())

/-- The `switch` of `GG_DtlsProtocol_AdvanceHandshake`: whether there is nothing more to do now. -/
def advance (self : DtlsProtocol σ) : Access (DtlsProtocol σ × Bool) :=
  match self.state with
  | .init => return ({ self with state := .handshake }, false)
  | .handshake =>
      if ssl.handshakeOver self.sslContext then do
        let self ← { self with state := .session }.notifyUser ssl
        return (self, false)
      else do
        let (self, result) ← self.call (ssl.handshakeStep self.sslContext)
        match result with
        | .ok _ => return (self, false)
        | .error .wantRead | .error .wantWrite => return (self, true)
        | .error e => return ({ self with state := .error, lastError := some (mapErrorCode e) }, false)
  | .error | .session => return (self, true)

/-- A server goes back to the handshake after an error. -/
def restart (self : DtlsProtocol σ) : DtlsProtocol σ :=
  if self.role = .server ∧ self.state = .error then
    match self.reset ssl with
    | (self, .ok _) => { self with state := .handshake }.emitStateChangeEvent
    | (self, .error _) => self
  else self

/-- The loop in `GG_DtlsProtocol_AdvanceHandshake`, with a number of turns. -/
def advanceWhileMoving : Nat → DtlsProtocol σ → Access (DtlsProtocol σ)
  | 0, _ => .error .diverges
  | turns + 1, self => do
      let previousState := self.state
      let (self, stops) ← self.advance ssl
      if stops then return { self with inAdvance := false }
      let self := if previousState ≠ self.state then self.emitStateChangeEvent else self
      advanceWhileMoving turns (self.restart ssl)

/-- `GG_DtlsProtocol_AdvanceHandshake`. -/
def advanceHandshake (self : DtlsProtocol σ) : Access (DtlsProtocol σ) :=
  if self.inAdvance then return self else advanceWhileMoving ssl turns { self with inAdvance := true }

/-- `GG_DtlsProtocol_StartHandshake`. -/
def startHandshake (self : DtlsProtocol σ) : Access (DtlsProtocol σ × Except TlsError Unit) := do
  if self.state ≠ .init then return (self, .error (.general .invalidState))
  let self ← { self with state := .handshake }.emitStateChangeEvent.advanceHandshake ssl turns
  return (self, .ok ())

/-! ## The transport side -/

/-- The address of the first datagram from a socket is remembered. -/
def rememberAddress (self : DtlsProtocol σ) : Option BufferMetadata → DtlsProtocol σ
  | some (.sourceSocketAddress socketAddress) =>
      if self.transportSide.socketAddress.port = 0 then
        { self with transportSide := { self.transportSide with socketAddress := socketAddress } }
      else self
  | _ => self

/-- `GG_DtlsProtocol_TransportSide_PutData`. -/
def transportPutData (self : DtlsProtocol σ) (data : List UInt8) (metadata : Option BufferMetadata) :
    Access (DtlsProtocol σ × Except TlsError Unit) := do
  let self := self.rememberAddress metadata
  if self.transportSide.pendingIn.isSome then return (self, .error (.general .wouldBlock))
  let self := { self with
    transportSide := { self.transportSide with pendingIn := some data, pendingInOffset := 0 }
    record := { self.record with arrived := self.record.arrived ++ [data] } }
  let self ← self.whenIn .handshake (advanceHandshake ssl turns)
  let self ← self.whenIn .session (userPumpData ssl turns)
  return (self, .ok ())

/-- `GG_DtlsProtocol_TransportSide_SetDataSink`. -/
def transportSetDataSink (self : DtlsProtocol σ) (sink : Option Sink) : DtlsProtocol σ :=
  { self with transportSide := { self.transportSide with sink := sink } }

/-- The loop in `GG_DtlsProtocol_TransportSide_OnCanPut`, with a number of turns. -/
def flushWhilePending : Nat → DtlsProtocol σ → Access (DtlsProtocol σ)
  | 0, _ => .error .diverges
  | rounds + 1, self =>
      if self.transportSide.pendingOut.isNone then return self
      else do
        let self ← self.transportTryToFlush
        if self.transportSide.pendingOut.isSome then return self
        let self ← self.whenIn .handshake (advanceHandshake ssl turns)
        let self ← self.whenIn .session (notifyUser ssl)
        flushWhilePending rounds self

/-- `GG_DtlsProtocol_TransportSide_OnCanPut`, which only the sink of the transport side calls. -/
def transportOnCanPut (self : DtlsProtocol σ) : Access (DtlsProtocol σ) :=
  if self.transportSide.sink.isSome then flushWhilePending ssl turns turns self else return self

/-! ## Runs -/

/-- What happens to the object. -/
inductive Step where
  | userPutData (data : List UInt8)
  | userSetListener (hasListener : Bool)
  | userSetDataSink (sink : Option Sink)
  | userOnCanPut
  | transportPutData (data : List UInt8) (metadata : Option BufferMetadata)
  | transportSetDataSink (sink : Option Sink)
  | transportOnCanPut
  | startHandshake
  | reset

def step (self : DtlsProtocol σ) : Step → Access (DtlsProtocol σ)
  | .userPutData data => Prod.fst <$> self.userPutData ssl data
  | .userSetListener hasListener => return self.userSetListener hasListener
  | .userSetDataSink sink => self.userSetDataSink ssl turns sink
  | .userOnCanPut => self.userPumpData ssl turns
  | .transportPutData data metadata => Prod.fst <$> self.transportPutData ssl turns data metadata
  | .transportSetDataSink sink => return self.transportSetDataSink sink
  | .transportOnCanPut => self.transportOnCanPut ssl turns
  | .startHandshake => Prod.fst <$> self.startHandshake ssl turns
  | .reset => return (self.reset ssl).1

def run (self : DtlsProtocol σ) (steps : List Step) : Access (DtlsProtocol σ) := steps.foldlM (step ssl turns) self

end DtlsProtocol

end GoldenGate.Tls
