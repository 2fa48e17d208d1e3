import GoldenGate.Common.Base64
import GoldenGate.Common.Crc32

/-! # Frames on a serial line

The embedding of `gg_remote_parser.c` and of the frames in `gg_remote_serial.c`. The parser
has one buffer for frames and acks, and does not look at its size. The line itself, the
retries and memory that runs out are left out.
-/

namespace GoldenGate.Remote

open Memory Base64

def maxFrameLen : Nat := 512
def seqFramedLen : Nat := 8
def crcFramedLen : Nat := 8
def ackFrameLen : Nat := 1 + seqFramedLen
/-- `GG_MIN_FRAME_LEN`: the delimiters, the CRC and the sequence number. -/
def minFrameLen : Nat := 1 + 1 + crcFramedLen + seqFramedLen + 1

def frameStartByte : UInt8 := charByte '#'
def framePayloadEndByte : UInt8 := charByte '$'
def frameEndByte : UInt8 := charByte '~'
def ackFrameStartByte : UInt8 := charByte '@'
def shellExit : UInt8 := charByte '^'

/-- Some bytes of an object. -/
def copy (region : List UInt8) (offset size : Nat) : Access (List UInt8) :=
  if offset + size ≤ region.length then .ok ((region.drop offset).take size) else .error .outOfBounds

/-! ## The parser -/

/-- `GG_SerialRemoteParser`. -/
structure SerialRemoteParser where
  buffer : List UInt8
  bufferIdx : Nat
  ackFrameLen : Nat
  ackParsingStarted : Bool
  ackParsingComplete : Bool
  frameLen : Nat
  payloadLen : Nat
  frameParsingStarted : Bool
  frameParsingComplete : Bool
  shellExitState : Bool
  deriving Repr, DecidableEq

namespace SerialRemoteParser

/-- `GG_SerialRemoteParser_Reset`. -/
def reset : SerialRemoteParser :=
  ⟨List.replicate maxFrameLen 0, 0, 0, false, false, 0, 0, false, false, false⟩

/-- `parser->buffer[parser->buffer_idx++] = c`. -/
def append (self : SerialRemoteParser) (c : UInt8) : Access SerialRemoteParser := do
  let buffer ← store self.buffer self.bufferIdx [c]
  return { self with buffer := buffer, bufferIdx := self.bufferIdx + 1 }

/-- `GG_SerialRemoteParser_PutData`. -/
def putData (self : SerialRemoteParser) (c : UInt8) : Access (SerialRemoteParser × Except Error Unit) :=
  if c = ackFrameStartByte then do
    let self ← { self with bufferIdx := 0, ackParsingStarted := true, ackParsingComplete := false }.append c
    return ({ self with ackFrameLen := 1 }, .ok ())
  else if c = frameStartByte then do
    let self ← { self with bufferIdx := 0, frameParsingStarted := true, frameParsingComplete := false }.append c
    return ({ self with frameLen := 1 }, .ok ())
  else if c = frameEndByte then
    if self.frameParsingStarted then do
      let self ← self.append c
      return ({ self with
        frameLen := self.frameLen + 1
        frameParsingStarted := false
        frameParsingComplete := true }, .ok ())
    else .ok (self, .ok ())
  else if c = shellExit then .ok ({ self with shellExitState := true }, .error .remoteExit)
  else if self.ackParsingStarted then do
    let self ← self.append c
    let self := { self with ackFrameLen := self.ackFrameLen + 1 }
    if self.ackFrameLen ≥ Remote.ackFrameLen then
      return ({ self with ackParsingStarted := false, ackParsingComplete := true }, .ok ())
    else return (self, .ok ())
  else if self.frameParsingStarted then do
    let self ← self.append c
    let self := { self with frameLen := self.frameLen + 1 }
    if c = framePayloadEndByte then return ({ self with payloadLen := self.frameLen - 2 }, .ok ())
    else return (self, .ok ())
  else .ok (self, .ok ())

/-- One character after the other. -/
def feed (self : SerialRemoteParser) : List UInt8 → Access SerialRemoteParser
  | [] => .ok self
  | c :: rest => do
      let (self, _) ← self.putData c
      self.feed rest

/-- `GG_SerialRemoteParser_GetFramePayload`. -/
def getFramePayload (self : SerialRemoteParser) : Access (Except Error (List UInt8)) := do
  if !self.frameParsingComplete then return .error .invalidState
  else
    let data ← copy self.buffer 1 self.payloadLen
    return .ok data

/-- `GG_SerialRemoteParser_GetFrameSeq`. -/
def getFrameSeq (self : SerialRemoteParser) : Access (Except Error (List UInt8)) := do
  if !self.frameParsingComplete then return .error .invalidState
  else
    let seq ← copy self.buffer (1 + self.payloadLen + 1 + crcFramedLen) seqFramedLen
    return .ok seq

/-- `GG_SerialRemoteParser_GetFrameLen`. -/
def getFrameLen (self : SerialRemoteParser) : Except Error Nat :=
  if !self.frameParsingComplete then .error .invalidState else .ok self.frameLen

/-- `GG_SerialRemoteParser_GetFramePtr`. -/
def getFramePtr (self : SerialRemoteParser) : Option (List UInt8) :=
  if !self.frameParsingComplete then none else some self.buffer

end SerialRemoteParser

/-! ## Numbers in hex -/

/-- One character of `GG_SerialTransport_atoi32`. -/
def hexDigit (byte : UInt8) : Option UInt8 :=
  if charByte '0' ≤ byte ∧ byte ≤ charByte '9' then some (byte - charByte '0')
  else if charByte 'a' ≤ byte ∧ byte ≤ charByte 'f' then some (byte - charByte 'a' + 10)
  else if charByte 'A' ≤ byte ∧ byte ≤ charByte 'F' then some (byte - charByte 'A' + 10)
  else none

/-- The loop of `GG_SerialTransport_atoi32`. -/
def atoi32From (data : List UInt8) : Nat → Nat → UInt32 → Access (Except Error UInt32)
  | 0, _, result => .ok (.ok result)
  | left + 1, offset, result => do
      let byte ← load data offset
      match hexDigit byte with
      | none => return .error .failure
      | some digit => atoi32From data left (offset + 1) ((result <<< 4) ||| (digit &&& 0xF).toUInt32)

/-- `GG_SerialTransport_atoi32`. -/
def atoi32 (data : List UInt8) (offset : Nat) : Access (Except Error UInt32) := atoi32From data 8 offset 0

def lookup : List UInt8 := "0123456789ABCDEF".toList.map charByte

/-- `GG_SerialTransport_itoa_hex`. -/
def itoaHex (source : UInt32) : List UInt8 :=
  [3, 2, 1, 0].flatMap fun i =>
    [ lookup.getD (((source.toNat >>> (8 * i)) &&& 0xF0) >>> 4) 0,
      lookup.getD ((source.toNat >>> (8 * i)) &&& 0x0F) 0 ]

/-! ## Frames -/

/-- `GG_SerialTransport_FrameValidation`. -/
def frameValidation (parser : SerialRemoteParser) : Access (Except Error Unit) :=
  let frameLen := match parser.getFrameLen with
    | .ok frameLen => frameLen
    | .error _ => 0
  match parser.getFramePtr with
  | none => .ok (.error .failure)
  | some frame => do
      if frameLen < minFrameLen then return .error .failure
      else
        match ← atoi32 frame (frameLen - crcFramedLen - seqFramedLen - 1) with
        | .error e => return .error e
        | .ok storedCrc =>
            let covered ← copy frame 1 (frameLen - minFrameLen)
            return if crc32 0 covered = storedCrc then .ok () else .error .failure

/-- `GG_SerialTransport_EncodeDecodePayload`. The first call is for the size; when no room is
    needed, it is the only one, and there is no output buffer. -/
def encodeDecodePayload (src : List UInt8) (encode : Bool) : Access (Except Error (Option (List UInt8))) := do
  let call (dstSize : Nat) : Access (Except Error (List UInt8) × Nat) :=
    if encode then .ok (Base64.encode src dstSize false) else Base64.decode src dstSize false
  match ← call 0 with
  | (.ok _, _) => return .ok none
  | (.error .notEnoughSpace, dstSize) => do
      let (result, _) ← call dstSize
      return result.map some
  | (.error e, _) => return .error e

/-- `GG_SerialTransport_CreateFrame`. -/
def createFrame (payload crc seq : List UInt8) : List UInt8 :=
  [frameStartByte] ++ payload ++ [framePayloadEndByte] ++ crc ++ seq ++ [frameEndByte]

/-- `DEFAULT_FRAME_SEQ_NUM_ARRAY`. -/
def defaultFrameSeqNum : List UInt8 := List.replicate seqFramedLen (charByte '0')

/-- `SerialTransport_WriteFrame`: the bytes that go to the line. -/
def writeFrame (buffer : List UInt8) : Access (Except Error (List UInt8)) := do
  match ← encodeDecodePayload buffer true with
  | .error e => return .error e
  | .ok none => .error .undefined
  | .ok (some encodedPayload) =>
      let crc := itoaHex (crc32 0 encodedPayload)
      return .ok (createFrame encodedPayload crc defaultFrameSeqNum)

end GoldenGate.Remote
