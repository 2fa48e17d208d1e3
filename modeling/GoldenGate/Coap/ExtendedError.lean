import GoldenGate.Coap.Message
import GoldenGate.Common.Protobuf

/-! # Extended errors

The embedding of `GG_CoapExtendedError` and of the functions of `gg_coap.c` that encode and
decode it.
-/

namespace GoldenGate.Coap

open Memory

def extendedErrorNamespaceFieldNumber : Nat := 1
def extendedErrorCodeFieldNumber : Nat := 2
def extendedErrorMessageFieldNumber : Nat := 3

/-- A pointer to characters, the memory from it on, and their number, where 0 is for a string
    that ends with a null. -/
structure ErrorString where
  memory : List UInt8
  size : Nat
  deriving Repr, DecidableEq

/-- `GG_CoapExtendedError`. -/
structure CoapExtendedError where
  nameSpace : Option ErrorString
  code : Int32
  message : Option ErrorString
  deriving Repr, DecidableEq

/-- `size ? size : strlen(string)`. -/
def ErrorString.length (self : ErrorString) : Access Nat :=
  if self.size ≠ 0 then .ok self.size else strlen self.memory

/-! ## Encoding -/

/-- What a string adds to the size. -/
def addEncodedSize (size : Nat) : Option ErrorString → Access Nat
  | none => return size
  | some string => do
      let stringSize ← string.length
      return (size + (1 + protobufVarintSize stringSize 1 + stringSize)) % 2 ^ 64

/-- `GG_CoapExtendedError_GetEncodedSize`. -/
def CoapExtendedError.getEncodedSize (self : CoapExtendedError) : Access Nat := do
  let size := 1 + protobufVarintSize (protobufSignedToZigZag self.code.toInt64).toNat 1
  let size ← addEncodedSize size self.nameSpace
  addEncodedSize size self.message

/-- The buffer that is encoded into, and how far it is written. -/
structure Encoding where
  buffer : List UInt8
  position : Nat
  deriving Repr, DecidableEq

def Encoding.put (self : Encoding) (bytes : List UInt8) : Access Encoding := do
  let buffer ← store self.buffer self.position bytes
  return ⟨buffer, self.position + bytes.length⟩

def Encoding.putString (self : Encoding) (fieldNumber : Nat) : Option ErrorString → Access Encoding
  | none => return self
  | some string => do
      let self ← self.put [protobufFieldKey fieldNumber protobufWireTypeLengthDelimited]
      let stringSize ← string.length
      let self ← self.put (encodeProtobufVarint stringSize)
      let bytes ← loadBytes string.memory 0 stringSize
      self.put bytes

/-- `GG_CoapExtendedError_Encode`. -/
def CoapExtendedError.encode (self : CoapExtendedError) (buffer : List UInt8) : Access Encoding := do
  let encoding ← Encoding.putString ⟨buffer, 0⟩ 1 self.nameSpace
  let encoding ← encoding.put [protobufFieldKey 2 protobufWireTypeVarint]
  let encoding ← encoding.put (encodeProtobufVarint (protobufSignedToZigZag self.code.toInt64).toNat)
  encoding.putString 3 self.message

/-! ## Decoding -/

def CoapExtendedError.setString (self : CoapExtendedError) (fieldNumber : Nat) (string : Option ErrorString) :
    CoapExtendedError :=
  if fieldNumber = extendedErrorNamespaceFieldNumber then { self with nameSpace := string }
  else { self with message := string }

/-- What a round of the loop comes to: the position and the size of what is left and the error so
    far, or a failure. -/
abbrev Decoded := Except Error (Nat × Nat × CoapExtendedError)

/-- The case of the namespace and of the message. -/
def decodeString (payload : List UInt8) (position payloadSize fieldNumber wireType : Nat) (self : CoapExtendedError) :
    Access Decoded := do
  if wireType ≠ 2 then return .error .invalidSyntax
  else
    let (bytesConsumed, stringSize) ← decodeProtobufVarint payload position payloadSize
    if bytesConsumed = 0 then return .error .invalidFormat
    else
      assert (bytesConsumed ≤ payloadSize)
      let position := position + bytesConsumed
      let payloadSize := payloadSize - bytesConsumed
      if payloadSize < stringSize then return .error .invalidFormat
      else
        let string := ⟨payload.drop position, stringSize⟩
        return .ok (position + stringSize, payloadSize - stringSize, self.setString fieldNumber (some string))

/-- The case of the code. -/
def decodeCode (payload : List UInt8) (position payloadSize wireType : Nat) (self : CoapExtendedError) :
    Access Decoded := do
  if wireType ≠ 0 then return .error .invalidSyntax
  else
    let (bytesConsumed, zigzagValue) ← decodeProtobufVarint payload position payloadSize
    if bytesConsumed = 0 then return .error .invalidFormat
    else
      let code := (protobufSignedFromZigZag (UInt64.ofNat zigzagValue)).toInt32
      assert (bytesConsumed ≤ payloadSize)
      return .ok (position + bytesConsumed, payloadSize - bytesConsumed, { self with code := code })

/-- The size of a field that is skipped, if it has one. -/
def skippedSize (payload : List UInt8) (position payloadSize wireType : Nat) : Access (Option Nat) :=
  if wireType = protobufWireTypeVarint then do
    let (fieldSize, _) ← decodeProtobufVarint payload position payloadSize
    return if fieldSize = 0 then none else some fieldSize
  else if wireType = protobufWireTypeLengthDelimited then do
    let (fieldSize, length) ← decodeProtobufVarint payload position payloadSize
    return if fieldSize = 0 then none else some ((fieldSize + length) % 2 ^ 64)
  else if wireType = protobufWireType32Bit then return some 4
  else if wireType = protobufWireType64Bit then return some 8
  else return none

/-- The case of any other field. -/
def skipField (payload : List UInt8) (position payloadSize wireType : Nat) (self : CoapExtendedError) :
    Access Decoded := do
  match ← skippedSize payload position payloadSize wireType with
  | none => return .error .invalidFormat
  | some fieldSize =>
      if fieldSize > payloadSize then return .error .invalidFormat
      else return .ok (position + fieldSize, payloadSize - fieldSize, self)

/-- One round of the loop. -/
def decodeField (payload : List UInt8) (position payloadSize : Nat) (self : CoapExtendedError) : Access Decoded := do
  let key ← load payload position
  let fieldNumber := key.toNat >>> 3
  let wireType := key.toNat &&& 7
  let payloadSize := payloadSize - 1
  let position := position + 1
  if fieldNumber = extendedErrorNamespaceFieldNumber ∨ fieldNumber = extendedErrorMessageFieldNumber then
    decodeString payload position payloadSize fieldNumber wireType self
  else if fieldNumber = extendedErrorCodeFieldNumber then decodeCode payload position payloadSize wireType self
  else skipField payload position payloadSize wireType self

/-- The loop over the fields, and the check behind it. -/
def decodeFields (payload : List UInt8) : Nat → Nat → Nat → CoapExtendedError →
    Access (Except Error CoapExtendedError)
  | 0, _, _, _ => .error .diverges
  | fuel + 1, position, payloadSize, self =>
      if payloadSize ≥ 2 then do
        match ← decodeField payload position payloadSize self with
        | .error error => return .error error
        | .ok (position, payloadSize, self) => decodeFields payload fuel position payloadSize self
      else if payloadSize ≠ 0 then return .error .invalidFormat
      else return .ok self

/-- `GG_CoapExtendedError_Decode`. Each field takes a byte at least. -/
def CoapExtendedError.decode (payload : List UInt8) : Access (Except Error CoapExtendedError) :=
  decodeFields payload (payload.length + 1) 0 payload.length ⟨none, 0, none⟩

end GoldenGate.Coap
