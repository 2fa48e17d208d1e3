import GoldenGate.Common.DynamicBuffer
import GoldenGate.Services.TestService

/-! # The shelf

The embedding of the handler for `test/shelf`, which keeps what is put on it under a name. An item is known by its
address, which is not used again after the item is gone, so that a use of it is seen. Memory may run out.
-/

namespace GoldenGate.TestService

open Coap Memory

/-- `GG_COAP_TEST_SERVER_MAX_SHELF_NAME_LENGTH`. -/
def maxShelfNameLength : Nat := 128

def codeRequestEntityTooLarge : UInt8 := messageCode 413

/-- `GG_CoapTestShelfItem`, with its address. -/
structure ShelfItem where
  address : Nat
  name : List UInt8
  payloadBuffer : DynamicBuffer
  deriving Repr, DecidableEq

/-- `sizeof(GG_CoapTestShelfItem)`, with pointers of 64 bits. -/
def shelfItemSize : Nat := 160

/-- The part of `GG_CoapTestServiceContext` that is for the shelf, and the address of the next item. -/
structure ShelfContext extends ResponseContext where
  shelfList : List ShelfItem
  activeUnnamedShelfItem : Option Nat
  nextAddress : Nat
  deriving Repr, DecidableEq

/-- What the handler fails with: the code of a response, or an error. -/
inductive ShelfFailure where
  | code (code : UInt8)
  | error (error : Error)
  deriving Repr, DecidableEq

abbrev ShelfResult := Except ShelfFailure Content

/-! ## Items -/

/-- The item at an address. -/
def ShelfContext.item (context : ShelfContext) (address : Nat) : Access ShelfItem :=
  match context.shelfList.find? (·.address = address) with
  | some item => .ok item
  | none => .error .undefined

/-- The item at an address has another buffer. -/
def ShelfContext.setBuffer (context : ShelfContext) (address : Nat) (payloadBuffer : DynamicBuffer) : ShelfContext :=
  { context with
    shelfList := context.shelfList.map fun item => if item.address = address then { item with payloadBuffer } else item }

/-- `GG_CoapTestService_CreateShelfItem`. -/
def createShelfItem (heap : Heap) (context : ShelfContext) (itemName : List UInt8) :
    Except UInt8 (ShelfContext × Nat) :=
  if itemName.length > maxShelfNameLength then .error codeBadRequest
  else
    match heap.allocate shelfItemSize with
    | none => .error codeRequestEntityTooLarge
    | some _ =>
        match DynamicBuffer.create heap 0 with
        | .error _ => .error codeRequestEntityTooLarge
        | .ok payloadBuffer =>
            let item : ShelfItem := ⟨context.nextAddress, itemName, payloadBuffer⟩
            .ok ({ context with
              shelfList := context.shelfList ++ [item]
              nextAddress := context.nextAddress + 1 }, item.address)

/-- `GG_CoapTestService_DeleteShelfItem`. -/
def deleteShelfItem (context : ShelfContext) (address : Nat) : ShelfContext :=
  { context with shelfList := context.shelfList.filter (·.address ≠ address) }

/-- `GG_CoapTestService_DeleteAllShelfItems`. -/
def deleteAllShelfItems (context : ShelfContext) : ShelfContext :=
  (context.shelfList.map (·.address)).foldl deleteShelfItem context

/-- `GG_CoapTestService_FindShelfItemWithName`. -/
def findShelfItemWithName (context : ShelfContext) (itemName : List UInt8) : Option ShelfItem :=
  context.shelfList.find? (·.name = itemName)

/-- One name and its comma in `GG_GetShelfItemNamesCSV`. -/
def putName (written : List UInt8 × Nat) (item : ShelfItem) : Access (List UInt8 × Nat) := do
  let names ← store written.1 written.2 item.name
  let offset := written.2 + item.name.length
  let names ← store names offset [0x2C]
  .ok (names, offset + 1)

/-- `GG_GetShelfItemNamesCSV`: the names, if there are any, and their length. -/
def getShelfItemNamesCsv (heap : Heap) (context : ShelfContext) : Access (Except Error (Option (List UInt8) × Nat)) :=
  let itemCount := context.shelfList.length
  let nameLengthSum := (context.shelfList.map (·.name.length)).sum
  if itemCount = 0 then .ok (.ok (none, 0))
  else
    match heap.allocate (itemCount + nameLengthSum) with
    | none => .ok (.error .outOfMemory)
    | some names => do
        let (names, offset) ← context.shelfList.foldlM putName (names, 0)
        .ok (.ok (some names, offset - 1))

/-- `unnamed%d`, as far as there is room for it. -/
def unnamed (index : Nat) : List UInt8 :=
  let digits := (Nat.toDigits 10 index).map fun digit => UInt8.ofNat digit.toNat
  ([0x75, 0x6E, 0x6E, 0x61, 0x6D, 0x65, 0x64] ++ digits).take (maxShelfNameLength - 1)

/-- The loop of `GG_CoapTestService_GetUniqueShelfItemName`, whose index is an `int`. -/
def getUniqueShelfItemName (context : ShelfContext) : Nat → Nat → Access (List UInt8)
  | 0, _ => .error .diverges
  | fuel + 1, index =>
      if index + 1 = 2 ^ 31 then .error .undefined
      else
        match findShelfItemWithName context (unnamed index) with
        | some _ => getUniqueShelfItemName context fuel (index + 1)
        | none => .ok (unnamed index)

/-- `GG_CoapTestService_CreateUnnamedShelfItem`. -/
def createUnnamedShelfItem (heap : Heap) (context : ShelfContext) : Access (Except UInt8 (ShelfContext × Nat)) := do
  let name ← getUniqueShelfItemName context (2 ^ 31) 0
  .ok (createShelfItem heap context name)

/-- `GG_CoapTestService_SetShelfItemData`. -/
def setShelfItemData (heap : Heap) (payloadBuffer : DynamicBuffer) (request : Content) :
    Access (Except UInt8 DynamicBuffer) := do
  match ← payloadBuffer.setData heap request.payload with
  | .error _ => .ok (.error codeRequestEntityTooLarge)
  | .ok payloadBuffer => .ok (.ok payloadBuffer)

/-- The `memcpy` that ends `GG_CoapTestService_SetShelfItemDataAtOffset`. -/
def putAtOffset (payloadBuffer : DynamicBuffer) (offset : Nat) (request : Content) :
    Access (Except UInt8 DynamicBuffer) := do
  let buffer ← store payloadBuffer.buffer offset request.payload
  .ok (.ok { payloadBuffer with buffer })

/-- `GG_CoapTestService_SetShelfItemDataAtOffset`. The size of the data is set when the buffer is too small for them. -/
def setShelfItemDataAtOffset (heap : Heap) (payloadBuffer : DynamicBuffer) (offset : Nat) (request : Content) :
    Access (Except UInt8 DynamicBuffer) :=
  let dataSize := offset + request.payload.length
  if dataSize > payloadBuffer.getBufferSize then do
    match ← payloadBuffer.setDataSize heap dataSize with
    | .error _ => .ok (.error codeRequestEntityTooLarge)
    | .ok payloadBuffer => putAtOffset payloadBuffer offset request
  else putAtOffset payloadBuffer offset request

/-- `GG_AddShelfURIResponseOption`, with all of `options_buffer` for the name. -/
def addShelfUriResponseOption (context : ShelfContext) : Access ShelfContext := do
  let address ← (match context.activeUnnamedShelfItem with
    | some address => .ok address
    | none => .error .undefined : Access Nat)
  let item ← context.item address
  if item.name.length ≤ maxShelfNameLength then do
    let option := ⟨optionLocationPath, .string (some item.name) item.name.length⟩
    let responseOptions ← addResponseOption context.responseOptions option
    .ok { context with responseOptions }
  else .error .outOfBounds

/-! ## Requests -/

/-- The name after `test/shelf` in the path of a request, if there is one. -/
def shelfName (request : Content) : Access (Option (List UInt8)) :=
  match ((request.options.filter (·.number = optionUriPath))[2]?).map MessageOption.value with
  | none => .ok none
  | some (.string (some chars) length) => do
      let name ← loadBytes chars 0 length
      .ok (some name)
  | some _ => .error .undefined

/-- The response that ends a request. -/
def respondFromShelf (context : ShelfContext) (payload : Option (List UInt8)) (payloadSize : Nat)
    (block1Info block2Info : Option BlockInfo) : Access (ShelfContext × ShelfResult) := do
  let response ← createResponse context.toResponseContext payload payloadSize block1Info block2Info
  .ok (context, .ok response)

/-- The payload of a POST or a PUT goes into an item, at the place of its block, if it is one. -/
def shelve (heap : Heap) (request : Content) (context : ShelfContext) (address : Nat) :
    Access (ShelfContext × Except UInt8 (Option BlockInfo)) := do
  let item ← context.item address
  let block1Info := match getBlockInfo request.options optionBlock1 0 with
    | .ok block1Info => some block1Info
    | .error _ => none
  let offset := match block1Info with
    | some block1Info => block1Info.offset
    | none => 0
  if offset > item.payloadBuffer.getDataSize then .ok (context, .error codeBadOption)
  else do
    let result ← (if offset = 0 then setShelfItemData heap item.payloadBuffer request
      else setShelfItemDataAtOffset heap item.payloadBuffer offset request : Access (Except UInt8 DynamicBuffer))
    match result with
    | .error code => .ok (context, .error code)
    | .ok payloadBuffer => .ok (context.setBuffer address payloadBuffer, .ok block1Info)

/-- There is no block, or it is the last one. -/
def isLastBlock (block1Info : Option BlockInfo) : Bool :=
  match block1Info with
  | some block1Info => !block1Info.more
  | none => true

/-- A GET of all names. -/
def onList (heap : Heap) (request : Content) (context : ShelfContext) : Access (ShelfContext × ShelfResult) := do
  match ← getShelfItemNamesCsv heap context with
  | .error error => .ok (context, .error (.error error))
  | .ok (names, length) =>
      let context := { context with responseCode := codeContent }
      if length = 0 then respondFromShelf context names 0 none none
      else
        match processBlock2Option request maxPayloadChunkSize length with
        | .error code => .ok (context, .error (.code code))
        | .ok (block2Info, chunkSize) =>
            let isBlock := block2Info.more || block2Info.offset ≠ 0
            let offset := if isBlock then block2Info.offset else 0
            if offset + chunkSize > length then .ok (context, .error (.code codeBadOption))
            else
              respondFromShelf context (names.map (·.drop offset)) chunkSize none
                (if isBlock then some block2Info else none)

/-- The rest of a POST, when there is an item for it. -/
def postTo (heap : Heap) (request : Content) (context : ShelfContext) (address : Nat) :
    Access (ShelfContext × ShelfResult) := do
  match ← shelve heap request context address with
  | (context, .error code) => .ok (context, .error (.code code))
  | (context, .ok block1Info) =>
      if isLastBlock block1Info then do
        let context ← addShelfUriResponseOption context
        respondFromShelf { context with activeUnnamedShelfItem := none } none 0 block1Info none
      else respondFromShelf context none 0 block1Info none

/-- A POST, which puts an unnamed item on the shelf. -/
def onPost (heap : Heap) (request : Content) (context : ShelfContext) : Access (ShelfContext × ShelfResult) :=
  match context.activeUnnamedShelfItem with
  | some address => postTo heap request context address
  | none => do
      match ← createUnnamedShelfItem heap context with
      | .error _ => .ok (context, .error (.code codeInternalServerError))
      | .ok (context, address) =>
          postTo heap request { context with activeUnnamedShelfItem := some address, responseCode := codeCreated } address

/-- A DELETE of all items. -/
def onDeleteAll (context : ShelfContext) : Access (ShelfContext × ShelfResult) :=
  respondFromShelf (deleteAllShelfItems { context with responseCode := codeDeleted }) none 0 none none

/-- A GET of an item. The payload is sent from its start, whatever the offset of the block. -/
def onGet (request : Content) (itemName : List UInt8) (context : ShelfContext) : Access (ShelfContext × ShelfResult) :=
  match findShelfItemWithName context itemName with
  | none => .ok (context, .error (.code codeNotFound))
  | some item =>
      let context := { context with responseCode := codeContent }
      let payload := item.payloadBuffer.getData
      let payloadLength := item.payloadBuffer.getDataSize
      if payloadLength = 0 then respondFromShelf context payload 0 none none
      else
        match processBlock2Option request maxPayloadChunkSize payloadLength with
        | .error code => .ok (context, .error (.code code))
        | .ok (block2Info, chunkSize) =>
            let isBlock := block2Info.more || block2Info.offset ≠ 0
            respondFromShelf context payload chunkSize none (if isBlock then some block2Info else none)

/-- The rest of a PUT, when there is an item for it. -/
def putTo (heap : Heap) (request : Content) (context : ShelfContext) (address : Nat) :
    Access (ShelfContext × ShelfResult) := do
  match ← shelve heap request context address with
  | (context, .error code) => .ok (context, .error (.code code))
  | (context, .ok block1Info) => respondFromShelf context none 0 block1Info none

/-- A PUT of an item. Whether the item could be created is not looked at. -/
def onPut (heap : Heap) (request : Content) (itemName : List UInt8) (context : ShelfContext) :
    Access (ShelfContext × ShelfResult) :=
  match findShelfItemWithName context itemName with
  | some item => putTo heap request { context with responseCode := codeChanged } item.address
  | none =>
      match createShelfItem heap { context with responseCode := codeCreated } itemName with
      | .error _ => .error .undefined
      | .ok (context, address) => putTo heap request context address

/-- A DELETE of an item, which may be the one that is being uploaded. -/
def onDelete (itemName : List UInt8) (context : ShelfContext) : Access (ShelfContext × ShelfResult) :=
  match findShelfItemWithName context itemName with
  | none => .ok (context, .error (.code codeNotFound))
  | some item =>
      respondFromShelf { deleteShelfItem context item.address with responseCode := codeDeleted } none 0 none none

/-- `GG_CoapTestService_ShelfRequestHandler_OnRequest`, with the options that are reset before. -/
def shelfOnRequest (heap : Heap) (context : ShelfContext) (request : Content) :
    Access (ShelfContext × ShelfResult) := do
  let context := { context with responseOptions := [] }
  match ← shelfName request with
  | none =>
      if request.code = methodGet then onList heap request context
      else if request.code = methodPost then onPost heap request context
      else if request.code = methodDelete then onDeleteAll context
      else .ok (context, .error (.code codeBadOption))
  | some itemName =>
      if request.code = methodGet then onGet request itemName context
      else if request.code = methodPut then onPut heap request itemName context
      else if request.code = methodDelete then onDelete itemName context
      else .ok (context, .error (.code codeBadOption))

end GoldenGate.TestService
