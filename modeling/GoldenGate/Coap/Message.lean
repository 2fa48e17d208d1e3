import GoldenGate.Common.Result
import GoldenGate.Common.Utils
import GoldenGate.Lib.Memory

/-! # CoAP messages

The embedding of `gg_coap_message.c`: the option sorter and serializer behind
`GG_CoapMessage_Create`, the validating parser `GG_CoapMessage_CreateFromDatagram`,
the accessors, and the option iterator, which trusts what the parser accepted.

A pointer into a buffer is an offset, or, where an option value keeps one, the
bytes of the buffer from that offset on. `size_t` quantities are natural numbers;
`uint32_t` ones keep their width. Allocation succeeds.
-/

namespace GoldenGate.Coap

open Memory

def messageMinSize : Nat := 4
def maxTokenLength : Nat := 8

/-- Type of a message, two bits of the first header byte. -/
inductive MessageType where
  | con
  | non
  | ack
  | rst
  deriving Repr, DecidableEq

namespace MessageType

def bits : MessageType → Nat
  | con => 0
  | non => 1
  | ack => 2
  | rst => 3

def ofBits : Nat → MessageType
  | 0 => con
  | 1 => non
  | 2 => ack
  | _ => rst

end MessageType

/-- `GG_CoapMessage`: the encoded bytes and where the payload lies in them. -/
structure Message where
  data : List UInt8
  payloadOffset : Nat
  payloadSize : Nat
  deriving Repr, DecidableEq

/-! ## Options -/

def optionNone : UInt32 := 0
def optionUriHost : UInt32 := 3
def optionIfNoneMatch : UInt32 := 5
def optionUriPort : UInt32 := 7
def optionLocationPath : UInt32 := 8
def optionUriPath : UInt32 := 11
def optionContentFormat : UInt32 := 12
def optionMaxAge : UInt32 := 14
def optionUriQuery : UInt32 := 15
def optionAccept : UInt32 := 17
def optionLocationQuery : UInt32 := 20
def optionBlock2 : UInt32 := 23
def optionBlock1 : UInt32 := 27
def optionSize2 : UInt32 := 28
def optionProxyUri : UInt32 := 35
def optionProxyScheme : UInt32 := 39
def optionSize1 : UInt32 := 60
def optionStartOffset : UInt32 := 2048

/-- `GG_COAP_MESSAGE_OPTION_TYPE_*`; `bytes` is `OPAQUE`. -/
inductive OptionType where
  | empty
  | uint
  | string
  | bytes
  deriving Repr, DecidableEq

/-- The value union. A string or byte pointer is `none` when it is `NULL`, else
    the memory from the pointer to the end of the object it points into. -/
inductive OptionValue where
  | empty
  | uint (value : UInt32)
  | string (chars : Option (List UInt8)) (length : Nat)
  | bytes (bytes : Option (List UInt8)) (size : Nat)
  deriving Repr, DecidableEq

structure MessageOption where
  number : UInt32
  value : OptionValue
  deriving Repr, DecidableEq

/-- The `switch` of the iterator: the value type that goes with a number. -/
def optionType (number : UInt32) : OptionType :=
  if number = optionIfNoneMatch then .empty
  else if number ∈ [optionUriPort, optionContentFormat, optionMaxAge, optionAccept, optionSize1,
      optionSize2, optionBlock1, optionBlock2, optionStartOffset] then .uint
  else if number ∈ [optionUriHost, optionLocationPath, optionUriPath, optionUriQuery,
      optionLocationQuery, optionProxyUri, optionProxyScheme] then .string
  else .bytes

/-! ## Parsing a datagram -/

/-- Bytes of extended delta that follow the option header. The parser only
    checks that they are there, it does not look at the delta. -/
def skipExtendedDelta (optionDelta dataSize : Nat) : Except Error Nat :=
  if optionDelta = 13 then
    if dataSize < 1 then .error .invalidFormat else .ok 1
  else if optionDelta = 14 then
    if dataSize < 2 then .error .invalidFormat else .ok 2
  else .ok 0

/-- Length announced by the length nibble, and how many bytes extend it. -/
def extendedLength (datagram : List UInt8) (optionLength data dataSize : Nat) :
    Access (Except Error (Nat × Nat)) :=
  if optionLength = 13 then
    if dataSize < 1 then return .error .invalidFormat
    else do
      let b ← load datagram data
      return .ok (13 + b.toNat, 1)
  else if optionLength = 14 then
    if dataSize < 2 then return .error .invalidFormat
    else do
      let hi ← load datagram data
      let lo ← load datagram (data + 1)
      return .ok (269 + ((hi.toNat <<< 8) ||| lo.toNat), 2)
  else return .ok (optionLength, 0)

/-- One round of the option loop: the data pointer and size after the option. -/
def scanOption (datagram : List UInt8) (head : UInt8) (data dataSize : Nat) :
    Access (Except Error (Nat × Nat)) := do
  let optionDelta := (head.toNat >>> 4) &&& 0xF
  let optionLength := head.toNat &&& 0xF
  if optionDelta = 15 ∨ optionLength = 15 then return .error .invalidFormat
  let data := data + 1
  let dataSize := dataSize - 1
  match skipExtendedDelta optionDelta dataSize with
  | .error e => return .error e
  | .ok skipped =>
      let data := data + skipped
      let dataSize := dataSize - skipped
      match ← extendedLength datagram optionLength data dataSize with
      | .error e => return .error e
      | .ok (optionLength, skipped) =>
          let data := data + skipped
          let dataSize := dataSize - skipped
          if dataSize < optionLength then return .error .invalidFormat
          return .ok (data + optionLength, dataSize - optionLength)

/-- `while (data_size && data[0] != 0xFF)`. -/
def scanOptions (datagram : List UInt8) : Nat → Nat → Nat → Access (Except Error (Nat × Nat))
  | 0, _, _ => .error .diverges
  | fuel + 1, data, dataSize =>
      if dataSize = 0 then return .ok (data, dataSize)
      else do
        let head ← load datagram data
        if head = 0xFF then return .ok (data, dataSize)
        match ← scanOption datagram head data dataSize with
        | .error e => return .error e
        | .ok (data, dataSize) => scanOptions datagram fuel data dataSize

/-- What follows the options: nothing, or the marker and a payload that is not empty. -/
def locatePayload (datagram : List UInt8) (data dataSize : Nat) : Access (Except Error Message) :=
  if dataSize = 0 then
    return .ok { data := datagram, payloadOffset := datagram.length, payloadSize := 0 }
  else do
    let marker ← load datagram data
    if marker ≠ 0xFF then return .error .invalidFormat
    if dataSize = 1 then return .error .invalidFormat
    return .ok
      { data := datagram
        payloadOffset := datagram.length - (dataSize - 1)
        payloadSize := dataSize - 1 }

/-- `GG_CoapMessage_CreateFromDatagram`. -/
def createFromDatagram (datagram : List UInt8) : Access (Except Error Message) := do
  let dataSize := datagram.length
  if dataSize < messageMinSize then return .error .invalidFormat
  let first ← load datagram 0
  if (first.toNat >>> 6) &&& 3 ≠ 1 then return .error .coapUnsupportedVersion
  let tokenLength := first.toNat &&& 0xF
  if tokenLength > maxTokenLength ∨ dataSize < 4 + tokenLength then return .error .invalidFormat
  match ← scanOptions datagram (dataSize + 1) (4 + tokenLength) (dataSize - (4 + tokenLength)) with
  | .error e => return .error e
  | .ok (data, dataSize) => locatePayload datagram data dataSize

/-! ## Accessors -/

namespace Message

def getType (self : Message) : Access MessageType := do
  let first ← load self.data 0
  return .ofBits ((first.toNat >>> 4) &&& 3)

def getCode (self : Message) : Access UInt8 := load self.data 1

def getMessageId (self : Message) : Access Nat := do
  let hi ← load self.data 2
  let lo ← load self.data 3
  return (hi.toNat <<< 8) ||| lo.toNat

/-- The token copied out; `memcpy` reads inside the buffer or faults. -/
def getToken (self : Message) : Access (List UInt8) := do
  let first ← load self.data 0
  let tokenLength := min maxTokenLength (first.toNat &&& 0xF)
  if 4 + tokenLength ≤ self.data.length then return (self.data.drop 4).take tokenLength
  else .error .outOfBounds

def getPayload (self : Message) : List UInt8 :=
  (self.data.drop self.payloadOffset).take self.payloadSize

end Message

/-! ## Creating a message -/

/-- `GG_CoapMessage_GetVarInt`: nibble, extension and size of the extension. -/
def getVarInt (n : Nat) : Except Error (Nat × Nat × Nat) :=
  if n < 13 then .ok (n, 0, 0)
  else if n < 269 then .ok (13, n - 13, 1)
  else if n ≤ 269 + 0xFFFF then .ok (14, n - 269, 2)
  else .error .outOfRange

/-- Bytes before the first NUL, which has to be inside the object. -/
def strlen (chars : List UInt8) : Access Nat :=
  match chars.idxOf? 0 with
  | some n => .ok n
  | none => .error .outOfBounds

/-- `GG_CoapMessage_OptionLength`. -/
def optionLength : OptionValue → Access Nat
  | .empty => .ok 0
  | .uint value =>
      if value = 0 then .ok 0
      else if value < 0xFF then .ok 1
      else if value < 0xFFFF then .ok 2
      else if value < 0xFFFFFF then .ok 3
      else .ok 4
  | .string chars length =>
      match chars with
      | some chars => if length = 0 then strlen chars else .ok length
      | none => .ok length
  | .bytes _ size => .ok size

/-- `GG_CoapMessage_ComputeOptionsSize`, over the sorted options. -/
def computeOptionsSize (size : Nat) (currentNumber : UInt32) : List MessageOption → Access Nat
  | [] => .ok size
  | option :: options => do
      assert (option.number ≥ currentNumber)
      match getVarInt (option.number - currentNumber).toNat with
      | .error _ => return size
      | .ok (_, _, deltaExtSize) =>
          let length := (← optionLength option.value) % 2 ^ 32
          match getVarInt length with
          | .error _ => return size
          | .ok (_, _, lengthExtSize) =>
              computeOptionsSize (size + (1 + deltaExtSize + lengthExtSize + length))
                option.number options

/-- The extension bytes of a delta or a length, most significant first. -/
def extensionBytes (ext extSize : Nat) : List UInt8 :=
  if extSize = 1 then [UInt8.ofNat ext]
  else if extSize = 2 then [UInt8.ofNat (ext >>> 8), UInt8.ofNat ext]
  else []

/-- `memcpy` source: `size` bytes from the pointer on. -/
def readBytes (source : List UInt8) (size : Nat) : Access (List UInt8) :=
  if size ≤ source.length then .ok (source.take size) else .error .outOfBounds

/-- The bytes the serializer copies for a value of the given length; `none` when
    there is nothing to copy from. -/
def valueSource (length : Nat) : OptionValue → Option (List UInt8)
  | .empty => none
  | .uint value => some ((bytesFromInt32Be value).drop (4 - length))
  | .string chars _ => chars
  | .bytes bytes _ => bytes

/-- `GG_CoapMessage_SerializeOptions`: the buffer after the writes, and the result. -/
def serializeOptions (buffer : List UInt8) (offset : Nat) (currentNumber : UInt32) :
    List MessageOption → Access (List UInt8 × Except Error Unit)
  | [] => .ok (buffer, .ok ())
  | option :: options => do
      assert (option.number ≥ currentNumber)
      match getVarInt (option.number - currentNumber).toNat with
      | .error e => return (buffer, .error e)
      | .ok (deltaNibble, deltaExt, deltaExtSize) =>
          let length := (← optionLength option.value) % 2 ^ 32
          match getVarInt length with
          | .error e => return (buffer, .error e)
          | .ok (lengthNibble, lengthExt, lengthExtSize) =>
              let buffer ← store buffer offset
                (UInt8.ofNat ((deltaNibble <<< 4) ||| lengthNibble) ::
                  (extensionBytes deltaExt deltaExtSize ++ extensionBytes lengthExt lengthExtSize))
              let offset := offset + (1 + deltaExtSize + lengthExtSize)
              let buffer ←
                match valueSource length option.value with
                | some source => do store buffer offset (← readBytes source length)
                | none => pure buffer
              serializeOptions buffer (offset + length) option.number options

/-- Link one option into the sorted list, after those with the same number. -/
def linkOption (option : MessageOption) : List MessageOption → List MessageOption
  | [] => [option]
  | cursor :: rest =>
      if cursor.number ≤ option.number then cursor :: linkOption option rest
      else option :: cursor :: rest

/-- Link and sort the options. -/
def sortOptions (options : List MessageOption) : List MessageOption :=
  options.foldl (fun sorted option => linkOption option sorted) []

/-- `GG_CoapMessage_Create`. A `NULL` payload with a size reserves zero bytes. -/
def create (code : UInt8) (type : MessageType) (options : List MessageOption)
    (messageId : UInt16) (token : List UInt8) (payload : Option (List UInt8))
    (payloadSize : Nat) : Access (Except Error Message) := do
  let tokenLength := token.length
  if tokenLength > maxTokenLength then return .error .invalidParameters
  let sortedOptions := sortOptions options
  let optionsSize ← computeOptionsSize 0 0 sortedOptions
  let bufferSize :=
    4 + tokenLength + optionsSize + (if payloadSize ≠ 0 then 1 + payloadSize else 0)
  let data := List.replicate bufferSize 0
  let data ← store data 0
    [UInt8.ofNat ((1 <<< 6) ||| (type.bits <<< 4) ||| tokenLength), code,
      UInt8.ofNat ((messageId.toNat >>> 8) &&& 0xFF), UInt8.ofNat (messageId.toNat &&& 0xFF)]
  let data ← store data 4 token
  let offset := 4 + tokenLength
  -- the result is not looked at: a value that cannot be encoded ends the options early
  let (data, _) ← serializeOptions data offset 0 sortedOptions
  let offset := offset + optionsSize
  if payloadSize = 0 then
    return .ok { data := data, payloadOffset := offset, payloadSize := 0 }
  else do
    let data ← store data offset [0xFF]
    let offset := offset + 1
    let data ←
      match payload with
      | some payload => do store data offset (← readBytes payload payloadSize)
      | none => store data offset (List.replicate payloadSize 0)
    return .ok { data := data, payloadOffset := offset, payloadSize := payloadSize }

/-- `GG_CoapMessage_ToDatagram`. -/
def Message.toDatagram (self : Message) : List UInt8 := self.data

/-! ## Iterating over the options -/

/-- `GG_CoapMessageOptionIterator`. A filter of 0 lets every option through. -/
structure OptionIterator where
  option : MessageOption
  filter : UInt32
  location : Nat
  endLocation : Nat
  deriving Repr, DecidableEq

/-- Delta or length behind a nibble, with no bounds check, and the pointer after it. -/
def readExtended (data : List UInt8) (nibble location : Nat) : Access (Nat × Nat) :=
  if nibble = 13 then do
    let b ← load data location
    return (13 + b.toNat, location + 1)
  else if nibble = 14 then do
    let hi ← load data location
    let lo ← load data (location + 1)
    return (269 + ((hi.toNat <<< 8) ||| lo.toNat), location + 2)
  else return (nibble, location)

/-- The loop that reads a `UINT` value, most significant byte first. -/
def readUint (data : List UInt8) : Nat → Nat → UInt32 → Access UInt32
  | 0, _, value => .ok value
  | n + 1, location, value => do
      let b ← load data location
      readUint data n (location + 1) ((value <<< 8) ||| b.toUInt32)

/-- The value of an option whose bytes are at `location`. Only a `UINT` is read;
    the other types point into the message. -/
def optionValue (data : List UInt8) (number : UInt32) (location length : Nat) :
    Access OptionValue :=
  match optionType number with
  | .empty => .ok .empty
  | .uint => do return .uint (← readUint data length location 0)
  | .string => .ok (.string (some (data.drop location)) length)
  | .bytes => .ok (.bytes (some (data.drop location)) length)

/-- `GG_CoapMessage_StepOptionIterator_`. A value the filter skips is left stale. -/
def stepOptionIterator_ (data : List UInt8) (iterator : OptionIterator) :
    Access OptionIterator := do
  if iterator.location ≥ iterator.endLocation then
    return { iterator with option := ⟨optionNone, .empty⟩ }
  let head ← load data iterator.location
  let optionDelta := (head.toNat >>> 4) &&& 0xF
  let optionLength := head.toNat &&& 0xF
  if optionDelta = 15 ∨ optionLength = 15 then
    return { iterator with option := ⟨optionNone, .empty⟩ }
  let (optionDelta, location) ← readExtended data optionDelta (iterator.location + 1)
  let (optionLength, location) ← readExtended data optionLength location
  let number := iterator.option.number + UInt32.ofNat optionDelta
  let value ←
    if iterator.filter = 0 ∨ iterator.filter = number then
      optionValue data number location optionLength
    else pure iterator.option.value
  return { iterator with option := ⟨number, value⟩, location := location + optionLength }

/-- `do … while`: until an option has the filter's number, or the end. -/
def stepToFilter (data : List UInt8) : Nat → OptionIterator → Access OptionIterator
  | 0, _ => .error .diverges
  | fuel + 1, iterator => do
      let iterator ← stepOptionIterator_ data iterator
      if iterator.option.number ≠ optionNone ∧ iterator.option.number ≠ iterator.filter then
        stepToFilter data fuel iterator
      else return iterator

/-- `GG_CoapMessage_StepOptionIterator`. -/
def stepOptionIterator (data : List UInt8) (iterator : OptionIterator) : Access OptionIterator :=
  if iterator.filter = 0 then stepOptionIterator_ data iterator
  else stepToFilter data (iterator.endLocation - iterator.location + 1) iterator

namespace Message

/-- `GG_CoapMessage_InitOptionIterator`. -/
def initOptionIterator (self : Message) (filter : UInt32) : Access OptionIterator := do
  let first ← load self.data 0
  let tokenLength := first.toNat &&& 0xF
  stepOptionIterator self.data
    { option := ⟨0, .empty⟩
      filter := filter
      location := 4 + tokenLength
      endLocation := self.payloadOffset }

end Message

/-- `while (iterator.option.number)`, the loop around the iterator: the options it
    visits, up to the sentinel number. -/
def visitOptionsFrom (data : List UInt8) : Nat → OptionIterator → Access (List MessageOption)
  | 0, _ => .error .diverges
  | fuel + 1, iterator =>
      if iterator.option.number = optionNone then return []
      else do
        let next ← stepOptionIterator data iterator
        let options ← visitOptionsFrom data fuel next
        return iterator.option :: options

/-- The options a message shows through a filter. -/
def Message.visitOptions (self : Message) (filter : UInt32) : Access (List MessageOption) := do
  let iterator ← self.initOptionIterator filter
  visitOptionsFrom self.data (self.data.length + 1) iterator

end GoldenGate.Coap
