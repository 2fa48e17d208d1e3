import GoldenGate.Common.Result
import GoldenGate.Common.RingQueue

/-! # The diagnostics RAM storage

The embedding of `gg_diagnostics_ram_storage.c`: records in a ring buffer, each after its length,
and handles that know how many of the oldest records they track and how many of those they have
returned. The mutex and the list nodes are left out, and allocations succeed; a length is stored
with its low byte first.
-/

namespace GoldenGate.Diagnostics

open Memory

def recordHandleRemove : UInt16 := 0
def recordHandleGenerate : UInt16 := 1
def recordHandleMin : UInt16 := 2
def recordHandleMax : UInt16 := 0xFFFF

/-- `GG_Record_Handle`. -/
structure RecordHandle where
  handle : UInt16
  count : Nat
  offset : Nat
  deriving Repr, DecidableEq

/-- `GG_RAMStorage`. -/
structure RamStorage where
  buffer : RingBuffer
  byteSize : Nat
  recordCount : Nat
  handles : List RecordHandle
  nextHandle : UInt16
  deriving Repr, DecidableEq

/-- A value that is kept in a `uint16_t`. -/
def u16 (value : Nat) : Nat := value % 2 ^ 16

/-- A difference that is kept in a `uint16_t`. -/
def u16Sub (a b : Nat) : Nat := u16 (a + 2 ^ 16 - b)

/-- The bytes of a `uint16_t` in memory. -/
def lengthBytes (length : Nat) : List UInt8 := [UInt8.ofNat length, UInt8.ofNat (length / 256)]

/-- The value of a `uint16_t` that some bytes were copied to. What is not copied stays as it was. -/
def lengthOver (old : Option Nat) : List UInt8 → Access Nat
  | [low, high] => .ok (low.toNat + 256 * high.toNat)
  | [low] =>
      match old with
      | some length => .ok (low.toNat + 256 * (length / 256))
      | none => .error .undefined
  | _ =>
      match old with
      | some length => .ok length
      | none => .error .undefined

/-- The length of the record at an offset of the buffer. -/
def peekLength (buffer : RingBuffer) (byteOffset : Nat) : Access Nat := do
  let bytes ← buffer.peek byteOffset 2
  lengthOver none bytes

namespace RamStorage

/-- `GG_Diagnostics_RAMStorage_Create`. -/
def create (size : UInt16) : RamStorage where
  buffer := RingBuffer.init (List.replicate size.toNat 0)
  byteSize := size.toNat
  recordCount := 0
  handles := []
  nextHandle := recordHandleMin

/-! ## Handles -/

/-- A handle after records were removed, if it still tracks one. -/
def recordsRemoved (removedCount : Nat) (handle : RecordHandle) : Option RecordHandle :=
  if handle.count ≤ removedCount then none
  else some { handle with
    count := handle.count - removedCount
    offset := if handle.offset > removedCount then handle.offset - removedCount else 0 }

/-- `GG_Diagnostics_RAMStorage_Handles_RecordsRemoved`. -/
def handlesRecordsRemoved (self : RamStorage) (removedCount : Nat) : RamStorage :=
  if removedCount = 0 then self
  else { self with handles := self.handles.filterMap (recordsRemoved removedCount) }

/-- `GG_Diagnostics_RAMStorage_GetRecordHandle`. -/
def getRecordHandle (self : RamStorage) (handle : UInt16) : Option RecordHandle :=
  self.handles.find? (·.handle = handle)

/-- `GG_Diagnostics_RAMStorage_CreateNewHandle`. -/
def createNewHandle (self : RamStorage) : RecordHandle × RamStorage :=
  let handle : RecordHandle := ⟨self.nextHandle, self.recordCount, 0⟩
  (handle, { self with
    handles := handle :: self.handles
    nextHandle := if self.nextHandle = recordHandleMax then recordHandleMin else self.nextHandle + 1 })

/-- `handle_p->offset += count`, for the handle that is found by its number. -/
def advance (number : UInt16) (count : Nat) : List RecordHandle → List RecordHandle
  | [] => []
  | handle :: rest =>
      if handle.handle = number then { handle with offset := u16 (handle.offset + count) } :: rest
      else handle :: advance number count rest

/-! ## Adding -/

/-- The loop that removes old records until there is room: the buffer after it, and how many they
    were. -/
def evict (recordSize : Nat) : Nat → RingBuffer → Option Nat → Nat → Access (RingBuffer × Nat)
  | 0, _, _, _ => .error .diverges
  | fuel + 1, buffer, len, removedCount =>
      if buffer.getSpace < recordSize then do
        let (bytes, buffer) ← buffer.read 2
        let len ← lengthOver len bytes
        let buffer := buffer.moveOut len
        -- an out pointer that left the array
        if buffer.out ≥ buffer.size then .error .outOfBounds
        else evict recordSize fuel buffer (some len) (u16 (removedCount + 1))
      else return (buffer, removedCount)

/-- `GG_Diagnostics_RAMStorage_AddRecord`. -/
def addRecord (fuel : Nat) (self : RamStorage) (payload : List UInt8) : Access (RamStorage × Except Error Unit) := do
  if payload.length = 0 then return (self, .error .invalidParameters)
  let recordSize := u16 (2 + payload.length)
  if recordSize > self.byteSize then return (self, .error .notEnoughSpace)
  -- the space of an array without bytes wraps, and the length is written past its end
  if self.byteSize = 0 then .error .outOfBounds
  else
    let (buffer, removedCount) ← evict recordSize fuel self.buffer none 0
    let self := handlesRecordsRemoved
      { self with buffer := buffer, recordCount := u16Sub self.recordCount removedCount } removedCount
    let (_, buffer) ← self.buffer.write (lengthBytes payload.length)
    let (_, buffer) ← buffer.write payload
    return ({ self with buffer := buffer, recordCount := u16 (self.recordCount + 1) }, .ok ())

/-! ## Getting and deleting -/

/-- The loop over the records that were already returned: where the next one is. -/
def skipRecords (buffer : RingBuffer) : Nat → Nat → Access Nat
  | 0, byteOffset => return byteOffset
  | n + 1, byteOffset => do
      let payloadLen ← peekLength buffer byteOffset
      skipRecords buffer n (u16 (byteOffset + (2 + payloadLen)))

/-- The loop that returns records, of which there are at most `n` left: how many, their size after
    `retLen` bytes, and their bytes. -/
def takeRecords (buffer : RingBuffer) (size : Nat) : Nat → Nat → Nat → Access (Nat × Nat × List UInt8)
  | 0, _, retLen => return (0, retLen, [])
  | n + 1, byteOffset, retLen => do
      let payloadLen ← peekLength buffer byteOffset
      if retLen + 2 + payloadLen > size then return (0, retLen, [])
      let bytes ← buffer.peek byteOffset (2 + payloadLen)
      let (count, retLen, rest) ← takeRecords buffer size n (u16 (byteOffset + (2 + payloadLen)))
        (u16 (retLen + (2 + payloadLen)))
      return (count + 1, retLen, bytes ++ rest)

/-- The loop that removes records from the buffer. -/
def dropRecords : Nat → RingBuffer → Access RingBuffer
  | 0, buffer => return buffer
  | n + 1, buffer => do
      let payloadLen ← peekLength buffer 0
      dropRecords n (buffer.moveOut (2 + payloadLen))

/-- Records that were removed are taken off the counts. -/
def removeRecords (self : RamStorage) (count : Nat) : Access RamStorage := do
  let buffer ← dropRecords count self.buffer
  return handlesRecordsRemoved { self with buffer := buffer, recordCount := u16Sub self.recordCount count } count

/-- What `GG_Diagnostics_RAMStorage_GetRecords` returns: the handle, the size and the records. -/
structure Got where
  handle : UInt16
  size : Nat
  records : List UInt8
  deriving Repr, DecidableEq

/-- The rest of `GG_Diagnostics_RAMStorage_GetRecords` for a handle, from an offset in the buffer. -/
def getTracked (self : RamStorage) (handle : RecordHandle) (byteOffset size : Nat) : Access (RamStorage × Got) := do
  let (count, retLen, records) ← takeRecords self.buffer size (u16Sub handle.count handle.offset) byteOffset 0
  return ({ self with handles := advance handle.handle count self.handles }, ⟨handle.handle, retLen, records⟩)

/-- `GG_Diagnostics_RAMStorage_GetRecords`. -/
def getRecords (self : RamStorage) (handle size : UInt16) : Access (RamStorage × Got) := do
  if handle = recordHandleGenerate then
    let (created, self) := self.createNewHandle
    self.getTracked created 0 size.toNat
  else if handle = recordHandleRemove then
    let (count, retLen, records) ← takeRecords self.buffer size.toNat self.recordCount 0 0
    let self ← self.removeRecords count
    return (self, ⟨handle, retLen, records⟩)
  else
    match self.getRecordHandle handle with
    | none => return (self, ⟨handle, 0, []⟩)
    | some tracked =>
        -- all records already retrieved
        if tracked.count = tracked.offset then return (self, ⟨handle, 0, []⟩)
        let byteOffset ← skipRecords self.buffer tracked.offset 0
        self.getTracked tracked byteOffset size.toNat

/-- `GG_Diagnostics_RAMStorage_DeleteRecords`. -/
def deleteRecords (self : RamStorage) (handle : UInt16) : Access (RamStorage × Except Error Unit) := do
  if handle = recordHandleGenerate then return (self, .error .invalidParameters)
  if handle = recordHandleRemove then
    let self := { self with buffer := self.buffer.reset }.handlesRecordsRemoved self.recordCount
    return ({ self with recordCount := 0 }, .ok ())
  match self.getRecordHandle handle with
  | none => return (self, .ok ())
  | some tracked =>
      let self ← self.removeRecords tracked.count
      return (self, .ok ())

end RamStorage

end GoldenGate.Diagnostics
