import GoldenGate.Coap.Block
import GoldenGate.Common.Crc32
import GoldenGate.Common.Utils

/-! # The test service

The embedding of what the handlers of `gg_coap_test_service.c` share, in `gg_coap_test_service_private.c`: the options
and the payload of a response, where there is memory for it, and the block of a payload that a request asks for.
-/

namespace GoldenGate.TestService

open Coap Memory

/-- `GG_COAP_METHOD_GET` and so on. -/
def methodGet : UInt8 := 1
def methodPost : UInt8 := 2
def methodPut : UInt8 := 3
def methodDelete : UInt8 := 4

def codeCreated : UInt8 := messageCode 201
def codeDeleted : UInt8 := messageCode 202
def codeBadRequest : UInt8 := messageCode 400
def codeNotFound : UInt8 := messageCode 404
def codeInternalServerError : UInt8 := messageCode 500

/-- `GG_COAP_TEST_SERVER_RESPONSE_OPTION_PAYLOAD_SIZE` and `GG_COAP_TEST_SERVER_RESPONSE_OPTION_PAYLOAD_CRC`. -/
def responseOptionPayloadSize : UInt32 := 50000
def responseOptionPayloadCrc : UInt32 := 50001

/-- `GG_COAP_TEST_SERVER_MAX_PAYLOAD_CHUNK_SIZE`. -/
def maxPayloadChunkSize : Nat := 1024

/-- What a handler returns: a response, or the code of an error. -/
abbrev HandlerResult := Except UInt8 Content

/-- What a response is made of, in the context of the service. -/
structure ResponseContext where
  responseCode : UInt8
  responseOptions : List MessageOption
  deriving Repr, DecidableEq

/-- An option is added to `response_options`, which has room for four. -/
def addResponseOption (options : List MessageOption) (option : MessageOption) : Access (List MessageOption) :=
  if options.length < 4 then .ok (options ++ [option]) else .error .outOfBounds

/-- `pattern[n]`. -/
def patternByte (n : Nat) : UInt8 := if n < 10 then UInt8.ofNat (0x30 + n) else UInt8.ofNat (0x57 + n)

/-- `GG_CoapTestService_GeneratePayload`, in a buffer for a chunk. Four bytes are written at a time. -/
def generatePayload (payloadSize offset : Nat) : Access (List UInt8) :=
  let offset := offset &&& 0xFFFF
  let words := (payloadSize + 3) / 4
  let word (i : Nat) := (List.range 4).map fun j => patternByte (((4 * i + offset + 4) >>> ((3 - j) * 4)) &&& 0xF)
  if 4 * words ≤ maxPayloadChunkSize then .ok (((List.range words).flatMap word).take payloadSize) else .error .outOfBounds

/-- `GG_CoapTestService_AddBlockOption`, whose result is not looked at. -/
def addBlockOption (options : List MessageOption) (blockInfo : BlockInfo) (blockOptionNumber : UInt32) :
    Access (List MessageOption) :=
  match blockInfo.toOptionValue with
  | .error _ => .ok options
  | .ok value => addResponseOption options ⟨blockOptionNumber, .uint value⟩

/-- The options and the code for a block in `GG_CoapTestService_CreateResponse`. -/
def addBlock (options : List MessageOption) (code : UInt8) (blockInfo : Option BlockInfo) (blockOptionNumber : UInt32)
    (moreCode : UInt8) : Access (List MessageOption × UInt8) :=
  match blockInfo with
  | none => .ok (options, code)
  | some blockInfo => do
      let options ← addBlockOption options blockInfo blockOptionNumber
      .ok (options, if blockInfo.more then moreCode else code)

/-- The payload of a response: the one that is given, or one that is generated. -/
def responsePayload (payload : Option (List UInt8)) (payloadSize : Nat) (block2Info : Option BlockInfo) :
    Access (List UInt8) :=
  match payload, block2Info with
  | some payload, _ => loadBytes payload 0 payloadSize
  | none, some block2Info => generatePayload payloadSize block2Info.offset
  | none, none => generatePayload payloadSize 0

/-- `GG_CoapTestService_CreateResponse`, with memory for the response. -/
def createResponse (context : ResponseContext) (payload : Option (List UInt8)) (payloadSize : Nat)
    (block1Info block2Info : Option BlockInfo) : Access Content := do
  let (options, code) ← addBlock context.responseOptions context.responseCode block1Info optionBlock1 codeContinue
  let (options, code) ← addBlock options code block2Info optionBlock2 codeContent
  let payload ← responsePayload payload payloadSize block2Info
  .ok ⟨code, options, payload⟩

/-- `GG_ProcessBlock2Option`: the block, and the size of its chunk of the payload. -/
def processBlock2Option (request : Content) (defaultBlockSize payloadSize : Nat) : Except UInt8 (BlockInfo × Nat) :=
  match getBlockInfo request.options optionBlock2 defaultBlockSize with
  | .error _ => .error codeBadOption
  | .ok block2Info =>
      if payloadSize = 0 then .ok (block2Info, 0)
      else
        match adjustAndGetChunkSize block2Info.offset block2Info.size payloadSize with
        | .error _ => .error codeInternalServerError
        | .ok (chunkSize, more) => .ok ({ block2Info with more }, chunkSize)

/-! ## Options of responses -/

theorem addResponseOption_room {options : List MessageOption} (room : options.length < 4) (option : MessageOption) :
    addResponseOption options option = .ok (options ++ [option]) :=
  if_pos room

/-- The options that tell a block, of which there is one at most. -/
def blockOptions (info : Option BlockInfo) (number : UInt32) : List MessageOption :=
  match info with
  | none => []
  | some info =>
      match info.toOptionValue with
      | .error _ => []
      | .ok value => [⟨number, .uint value⟩]

theorem length_blockOptions (info : Option BlockInfo) (number : UInt32) : (blockOptions info number).length ≤ 1 := by
  cases info with
  | none => exact Nat.zero_le 1
  | some info =>
      simp only [blockOptions]
      split
      · exact Nat.zero_le 1
      · exact Nat.le_refl 1

theorem number_of_blockOptions {info : Option BlockInfo} {number : UInt32} :
    ∀ option ∈ blockOptions info number, option.number = number := by
  cases info with
  | none => simp [blockOptions]
  | some info =>
      simp only [blockOptions]
      split
      · simp
      · simp

theorem addBlock_room {options : List MessageOption} (room : options.length < 4) (code : UInt8)
    (info : Option BlockInfo) (number : UInt32) (moreCode : UInt8) :
    ∃ code', addBlock options code info number moreCode = .ok (options ++ blockOptions info number, code') := by
  cases info with
  | none => exact ⟨code, by rw [blockOptions, List.append_nil, addBlock]⟩
  | some info =>
      simp only [addBlock, addBlockOption, blockOptions]
      cases info.toOptionValue with
      | error e => exact ⟨_, by rw [List.append_nil]; rfl⟩
      | ok value =>
          simp only [addResponseOption_room room, ok_bind]
          exact ⟨_, rfl⟩

/-- A response has the options that are there, and those for its blocks. -/
theorem createResponse_room {context : ResponseContext} (few : context.responseOptions.length ≤ 2)
    {payload : Option (List UInt8)} {payloadSize : Nat} {bytes : List UInt8} (block1Info block2Info : Option BlockInfo)
    (gives : responsePayload payload payloadSize block2Info = .ok bytes) :
    ∃ code, createResponse context payload payloadSize block1Info block2Info = .ok ⟨code,
      context.responseOptions ++ (blockOptions block1Info optionBlock1 ++ blockOptions block2Info optionBlock2),
      bytes⟩ := by
  have one := length_blockOptions block1Info optionBlock1
  obtain ⟨code₁, adds₁⟩ := addBlock_room (by omega : context.responseOptions.length < 4) context.responseCode block1Info
    optionBlock1 codeContinue
  obtain ⟨code₂, adds₂⟩ := addBlock_room
    (by rw [List.length_append]; omega :
      (context.responseOptions ++ blockOptions block1Info optionBlock1).length < 4) code₁ block2Info optionBlock2
    codeContent
  refine ⟨code₂, ?_⟩
  simp only [createResponse, adds₁, adds₂, gives, ok_bind, List.append_assoc]

end GoldenGate.TestService
