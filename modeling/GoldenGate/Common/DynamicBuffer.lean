import GoldenGate.Common.Result
import GoldenGate.Lib.Memory

/-! # Dynamic buffers

The embedding of `GG_DynamicBuffer` of `gg_buffer.c`: memory of some size, of which the first bytes are the data. When
there is no room for some data, the buffer is allocated anew, which may fail.
-/

namespace GoldenGate

open Memory

/-- What `GG_AllocateMemory` gives for each size at some time: some bytes, or nothing. -/
structure Heap where
  allocate : Nat → Option (List UInt8)
  length_allocate : ∀ size bytes, allocate size = some bytes → bytes.length = size

/-- There is a size for which there is no memory. -/
def Heap.IsShort (heap : Heap) : Prop := ∃ size, heap.allocate size = none

/-- `GG_DynamicBuffer`, whose `buffer_size` is the length of `buffer`. Where there is no buffer, it is empty. -/
structure DynamicBuffer where
  bufferIsLocal : Bool
  buffer : List UInt8
  dataSize : Nat
  deriving Repr, DecidableEq

namespace DynamicBuffer

/-- `GG_DynamicBuffer_GetBufferSize`. -/
def getBufferSize (self_ : DynamicBuffer) : Nat := self_.buffer.length

/-- `GG_DynamicBuffer_GetData`. -/
def getData (self_ : DynamicBuffer) : Option (List UInt8) := if self_.buffer = [] then none else some self_.buffer

/-- `GG_DynamicBuffer_GetDataSize`. -/
def getDataSize (self_ : DynamicBuffer) : Nat := self_.dataSize

section Model

variable (heap : Heap)

/-- `sizeof(GG_DynamicBuffer)`, with pointers of 64 bits. -/
def structSize : Nat := 40

/-- `GG_DynamicBuffer_Create`. -/
def create (size : Nat) : Except Error DynamicBuffer :=
  match heap.allocate structSize with
  | none => .error .outOfMemory
  | some _ =>
      if size = 0 then .ok ⟨true, [], 0⟩
      else
        match heap.allocate size with
        | none => .error .outOfMemory
        | some buffer => .ok ⟨true, buffer, 0⟩

/-- `GG_DynamicBuffer_ReallocateBuffer`. -/
def reallocateBuffer (self_ : DynamicBuffer) (size : Nat) : Access (Except Error DynamicBuffer) :=
  if self_.dataSize > size then .ok (.error .invalidParameters)
  else if size = 0 then .ok (.ok { self_ with buffer := [] })
  else
    match heap.allocate size with
    | none => .ok (.error .outOfMemory)
    | some newBuffer =>
        if self_.buffer ≠ [] ∧ self_.dataSize ≠ 0 then do
          let data ← loadBytes self_.buffer 0 self_.dataSize
          let buffer ← store newBuffer 0 data
          .ok (.ok { self_ with buffer })
        else .ok (.ok { self_ with buffer := newBuffer })

/-- `GG_DynamicBuffer_SetDataSize`. -/
def setDataSize (self_ : DynamicBuffer) (size : Nat) : Access (Except Error DynamicBuffer) :=
  if size > self_.getBufferSize then
    if self_.bufferIsLocal then do
      match ← reallocateBuffer heap self_ size with
      | .error error => .ok (.error error)
      | .ok self_ => .ok (.ok { self_ with dataSize := size })
    else .ok (.error .notSupported)
  else .ok (.ok { self_ with dataSize := size })

/-- The end of `GG_DynamicBuffer_SetData`, when there is room. -/
def putData (self_ : DynamicBuffer) (data : List UInt8) : Access (Except Error DynamicBuffer) := do
  let buffer ← store self_.buffer 0 data
  .ok (.ok { self_ with buffer, dataSize := data.length })

/-- `GG_DynamicBuffer_SetData`. -/
def setData (self_ : DynamicBuffer) (data : List UInt8) : Access (Except Error DynamicBuffer) :=
  if data.length > self_.getBufferSize then
    if self_.bufferIsLocal then do
      match ← reallocateBuffer heap self_ data.length with
      | .error error => .ok (.error error)
      | .ok self_ => putData self_ data
    else .ok (.error .outOfResources)
  else putData self_ data

end Model

/-! ## What the operations do -/

/-- The bytes that are the data. -/
def value (self_ : DynamicBuffer) : List UInt8 := self_.buffer.take self_.dataSize

/-- The buffer is its own memory, and the data fit into it. -/
structure IsOwn (self_ : DynamicBuffer) : Prop where
  isLocal : self_.bufferIsLocal = true
  fits : self_.dataSize ≤ self_.buffer.length

/-- An operation goes through, or there was no memory for it. -/
def Gives (heap : Heap) (result : Access (Except Error DynamicBuffer)) (good : DynamicBuffer → Prop) : Prop :=
  (∃ error, result = .ok (.error error) ∧ heap.IsShort) ∨ ∃ after, result = .ok (.ok after) ∧ good after

variable {self_ : DynamicBuffer}

theorem IsOwn.length_value (own : self_.IsOwn) : self_.value.length = self_.dataSize :=
  List.length_take_of_le own.fits

theorem create_zero (heap : Heap) :
    (create heap 0 = .error .outOfMemory ∧ heap.allocate structSize = none) ∨
      (create heap 0 = .ok ⟨true, [], 0⟩ ∧ heap.allocate structSize ≠ none) := by
  cases room : heap.allocate structSize with
  | none => exact .inl ⟨by simp [create, room], rfl⟩
  | some _ => exact .inr ⟨by simp [create, room], nofun⟩

/-- A buffer grows to the size that is asked for, with the same data. -/
theorem reallocateBuffer_gives (heap : Heap) (own : self_.IsOwn) {size : Nat} (grows : self_.buffer.length < size) :
    Gives heap (reallocateBuffer heap self_ size) fun after =>
      after.IsOwn ∧ after.buffer.length = size ∧ after.value = self_.value ∧ after.dataSize = self_.dataSize := by
  have fits := own.fits
  have room : ¬self_.dataSize > size := by omega
  have some_ : size ≠ 0 := by omega
  cases given : heap.allocate size with
  | none => exact .inl ⟨.outOfMemory, by simp [reallocateBuffer, room, some_, given], size, given⟩
  | some newBuffer =>
      have length := heap.length_allocate size newBuffer given
      refine .inr ?_
      by_cases old : self_.buffer ≠ [] ∧ self_.dataSize ≠ 0
      · have loads : loadBytes self_.buffer 0 self_.dataSize = .ok self_.value := by
          have inside : 0 + self_.dataSize ≤ self_.buffer.length := by omega
          simp only [loadBytes, if_pos inside, List.drop_zero, value]
        have stores := store_zero newBuffer self_.value (by rw [own.length_value]; omega)
        refine ⟨{ self_ with buffer := self_.value ++ newBuffer.drop self_.value.length }, ?_, ?_⟩
        · simp only [reallocateBuffer, if_neg room, if_neg some_, given, if_pos old, loads, ok_bind, stores]
        · have total : (self_.value ++ newBuffer.drop self_.value.length).length = size := by
            simp only [List.length_append, List.length_drop, own.length_value]
            omega
          have same : (self_.value ++ newBuffer.drop self_.value.length).take self_.dataSize = self_.value := by
            rw [← own.length_value, List.take_left]
          exact ⟨⟨own.isLocal, by simp only [total]; omega⟩, total, same, rfl⟩
      · refine ⟨{ self_ with buffer := newBuffer }, ?_, ⟨own.isLocal, by simp only [length]; omega⟩, length, ?_, rfl⟩
        · simp only [reallocateBuffer, if_neg room, if_neg some_, given, if_neg old]
        · have none_ : self_.dataSize = 0 := by
            by_contra some_
            have empty : self_.buffer = [] := by
              by_contra any
              exact old ⟨any, some_⟩
            rw [empty, List.length_nil] at fits
            omega
          simp only [value, none_, List.take_zero]

/-- Data that replace all there was. -/
theorem putData_ok (self_ : DynamicBuffer) (isLocal : self_.bufferIsLocal = true) {data : List UInt8}
    (room : data.length ≤ self_.buffer.length) :
    ∃ after, putData self_ data = .ok (.ok after) ∧ after.IsOwn ∧ after.value = data := by
  refine ⟨{ self_ with buffer := data ++ self_.buffer.drop data.length, dataSize := data.length }, ?_, ⟨isLocal, ?_⟩, ?_⟩
  · simp only [putData, store_zero self_.buffer data room, ok_bind]
  · simp only [List.length_append]
    omega
  · simp only [value, List.take_left]

theorem setData_gives (heap : Heap) (own : self_.IsOwn) (data : List UInt8) :
    Gives heap (setData heap self_ data) fun after => after.IsOwn ∧ after.value = data := by
  by_cases grows : data.length > self_.getBufferSize
  · obtain ⟨error, fails, short⟩ | ⟨larger, goes, own', length, -⟩ := reallocateBuffer_gives heap own grows
    · exact .inl ⟨error, by simp only [setData, if_pos grows, if_pos own.isLocal, fails, ok_bind], short⟩
    · obtain ⟨after, puts, good⟩ := putData_ok larger own'.isLocal (by omega : data.length ≤ larger.buffer.length)
      exact .inr ⟨after, by simp only [setData, if_pos grows, if_pos own.isLocal, goes, ok_bind, puts], good⟩
  · obtain ⟨after, puts, good⟩ := putData_ok self_ own.isLocal (Nat.le_of_not_lt grows)
    exact .inr ⟨after, by simp only [setData, if_neg grows, puts], good⟩

/-- Data that grow beyond the buffer begin with what there was. -/
theorem setDataSize_gives (heap : Heap) (own : self_.IsOwn) {size : Nat} (grows : self_.buffer.length < size) :
    Gives heap (setDataSize heap self_ size) fun after =>
      after.IsOwn ∧ after.buffer.length = size ∧ after.dataSize = size ∧
        after.buffer.take self_.dataSize = self_.value := by
  obtain ⟨error, fails, short⟩ | ⟨larger, goes, own', length, same, data⟩ :=
    reallocateBuffer_gives heap own grows
  · refine .inl ⟨error, ?_, short⟩
    simp only [setDataSize, getBufferSize, if_pos grows, if_pos own.isLocal, fails, ok_bind]
  · refine .inr ⟨{ larger with dataSize := size }, ?_, ⟨own'.isLocal, by simp only [length, Nat.le_refl]⟩, length, rfl, ?_⟩
    · simp only [setDataSize, getBufferSize, if_pos grows, if_pos own.isLocal, goes, ok_bind]
    · rw [← same, value, data]

end DynamicBuffer

end GoldenGate
