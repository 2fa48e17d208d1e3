import GoldenGate.Services.TestService

/-! # The mirror

The embedding of the handler for `test/mirror`, which tells the size and the checksum of what it has received, and the
runs of an upload. The strings of the queries lie in the datagram, so what is read of them may be behind their ends.
-/

namespace GoldenGate.TestService

open Coap Memory

/-- `GG_CoapTestServiceState`. -/
inductive MirrorState where
  | idle
  | blockRx
  | blockTx
  deriving Repr, DecidableEq

/-- The part of `GG_CoapTestServiceContext` that is for the mirror. -/
structure MirrorContext extends ResponseContext where
  state : MirrorState
  receivedPayloadSize : UInt32
  receivedPayloadCrc : UInt32
  payloadSize : Nat
  deriving Repr, DecidableEq

/-! ## Queries -/

/-- `strncmp` with all of a literal, as a test. -/
def startsWith : List UInt8 → List UInt8 → Access Bool
  | [], _ => .ok true
  | _, [] => .error .outOfBounds
  | d :: literal, c :: chars => if d = c then startsWith literal chars else .ok false

/-- `isspace`. -/
def isSpace (c : UInt8) : Bool := c = 0x20 || (0x09 ≤ c && c ≤ 0x0D)

/-- The characters behind white space. -/
def skipSpaces : List UInt8 → Access (List UInt8)
  | [] => .error .outOfBounds
  | c :: chars => if isSpace c then skipSpaces chars else .ok (c :: chars)

/-- The number that digits make, up to the first other character. -/
def readDigits (value : Nat) : List UInt8 → Access Nat
  | [] => .error .outOfBounds
  | c :: chars => if 0x30 ≤ c ∧ c ≤ 0x39 then readDigits (10 * value + (c.toNat - 0x30)) chars else .ok value

/-- `atoi`, which is not defined for a number that is no `int`. -/
def atoi (chars : List UInt8) : Access Int := do
  let chars ← skipSpaces chars
  let sign ← load chars 0
  let signed := sign = 0x2B ∨ sign = 0x2D
  let digits ← readDigits 0 (if signed then chars.tail else chars)
  let value : Int := if sign = 0x2D then -digits else digits
  if -2 ^ 31 ≤ value ∧ value < 2 ^ 31 then .ok value else .error .undefined

/-- The characters of a query, and what follows them. -/
def queryChars : OptionValue → Access (List UInt8)
  | .string (some chars) _ => .ok chars
  | _ => .error .undefined

/-- One query in the loop of `GG_CoapTestService_ParseQueryOptions`. -/
def parseQuery (query : Nat × Int) (option : MessageOption) : Access (Nat × Int) := do
  let chars ← queryChars option.value
  if ← startsWith [0x73, 0x7A, 0x3D] chars then do
    let size ← atoi (chars.drop 3)
    .ok ((size % 2 ^ 64).toNat, query.2)
  else if ← startsWith [0x72, 0x63, 0x3D] chars then do
    let code ← atoi (chars.drop 3)
    .ok (query.1, code)
  else .ok query

/-- `(uint8_t)GG_COAP_MESSAGE_CODE(x)`. -/
def intMessageCode (x : Int) : UInt8 :=
  (BitVec.ofInt 32 (x.tdiv 100) <<< 5 ||| BitVec.ofInt 32 (x.tmod 100)).toNat.toUInt8

/-- The response code when none is asked for. -/
def methodResponseCode (method : UInt8) : UInt8 :=
  if method = methodPut ∨ method = methodPost then codeChanged
  else if method = methodGet then codeContent
  else if method = methodDelete then codeDeleted
  else codeBadOption

/-- `GG_CoapTestService_ParseQueryOptions`: the size and the code that are asked for. -/
def parseQueryOptions (request : Content) : Access (Nat × UInt8) := do
  let (payloadSize, responseCode) ←
    (request.options.filter (·.number = optionUriQuery)).foldlM parseQuery (0, 0)
  let code := if responseCode = 0 ∨ responseCode = codeContinue.toNat then methodResponseCode request.code
    else intMessageCode responseCode
  .ok (payloadSize, code)

/-! ## Requests -/

/-- `GG_CoapTestService_UpdateReceivedPayloadInfo`. -/
def updateReceivedPayloadInfo (request : Content) (context : MirrorContext) : Access MirrorContext := do
  let receivedPayloadSize := context.receivedPayloadSize + UInt32.ofNat request.payload.length
  let bytes ← loadBytes request.payload 0 receivedPayloadSize.toNat
  .ok { context with receivedPayloadSize, receivedPayloadCrc := crc32 context.receivedPayloadCrc bytes }

/-- `GG_CoapTestService_PopulatePayloadSizeAndCRCOptions`. -/
def populatePayloadSizeAndCrcOptions (context : MirrorContext) : Access MirrorContext := do
  let size := bytesFromInt32Be context.receivedPayloadSize
  let options ← addResponseOption context.responseOptions ⟨responseOptionPayloadSize, .bytes (some size) 4⟩
  let crc := bytesFromInt32Be context.receivedPayloadCrc
  let options ← addResponseOption options ⟨responseOptionPayloadCrc, .bytes (some crc) 4⟩
  .ok { context with responseOptions := options }

/-- The options for what has been received, which only go with some methods. -/
def populateFor (method : UInt8) (context : MirrorContext) : Access MirrorContext :=
  if method = methodPut ∨ method = methodPost then populatePayloadSizeAndCrcOptions context else .ok context

/-- The response that ends `GG_CoapTestService_MirrorRequestHandler_OnRequest`. -/
def respond (context : MirrorContext) (payloadSize : Nat) (block1Info block2Info : Option BlockInfo) :
    Access (MirrorContext × HandlerResult) := do
  let response ← createResponse context.toResponseContext none payloadSize block1Info block2Info
  .ok (context, .ok response)

/-- A request in the idle state, with the block that it is, if it is one. -/
def onFirst (request : Content) (context : MirrorContext) (block1Info : Option BlockInfo) :
    Access (MirrorContext × HandlerResult) := do
  let more := match block1Info with
    | some info => info.more
    | none => false
  let context := if more then { context with state := .blockRx } else context
  let context ← (if more then .ok context else populateFor request.code context : Access MirrorContext)
  match processBlock2Option request maxPayloadChunkSize context.payloadSize with
  | .error code => .ok (context, .error code)
  | .ok (block2Info, chunkSize) =>
      if block2Info.more then respond { context with state := .blockTx } chunkSize block1Info (some block2Info)
      else respond context chunkSize block1Info none

/-- A new request is received. -/
def onIdle (request : Content) (context : MirrorContext) : Access (MirrorContext × HandlerResult) := do
  let context ← updateReceivedPayloadInfo request { context with receivedPayloadSize := 0, receivedPayloadCrc := 0 }
  let (payloadSize, responseCode) ← parseQueryOptions request
  let context := { context with payloadSize, responseCode }
  match getBlockInfo request.options optionBlock1 0 with
  | .ok info => onFirst request context (some info)
  | .error error => if error ≠ .noSuchItem then .ok (context, .error codeBadOption) else onFirst request context none

/-- The payload is collected. -/
def onBlockRx (request : Content) (context : MirrorContext) : Access (MirrorContext × HandlerResult) := do
  let context ← updateReceivedPayloadInfo request context
  match getBlockInfo request.options optionBlock1 0 with
  | .error _ => .ok ({ context with state := .idle }, .error codeBadOption)
  | .ok block1Info =>
      if block1Info.more then respond context 0 (some block1Info) none
      else do
        let context ← populateFor request.code context
        if context.payloadSize > maxPayloadChunkSize then
          match processBlock2Option request maxPayloadChunkSize context.payloadSize with
          | .error code => .ok (context, .error code)
          | .ok (block2Info, chunkSize) =>
              let context := if block2Info.more then { context with state := .blockTx } else context
              respond context chunkSize (some block1Info) (some block2Info)
        else respond { context with state := .idle } context.payloadSize (some block1Info) none

/-- The blockwise response goes on. -/
def onBlockTx (request : Content) (context : MirrorContext) : Access (MirrorContext × HandlerResult) :=
  match processBlock2Option request 0 context.payloadSize with
  | .error code => .ok (context, .error code)
  | .ok (block2Info, chunkSize) =>
      let context := if block2Info.more then context else { context with state := .idle }
      respond context chunkSize none (some block2Info)

/-- `GG_CoapTestService_MirrorRequestHandler_OnRequest`, with the options that are reset before. -/
def mirrorOnRequest (context : MirrorContext) (request : Content) : Access (MirrorContext × HandlerResult) :=
  let context := { context with responseOptions := [] }
  match context.state with
  | .idle => onIdle request context
  | .blockRx => onBlockRx request context
  | .blockTx => onBlockTx request context

/-- Some requests, one after the other, and the last of the results. -/
def mirrorRun (context : MirrorContext) : List Content → Access (MirrorContext × Option HandlerResult)
  | [] => .ok (context, none)
  | [request] => do
      let (context, result) ← mirrorOnRequest context request
      .ok (context, some result)
  | request :: requests => do
      let (context, _) ← mirrorOnRequest context request
      mirrorRun context requests

end GoldenGate.TestService
