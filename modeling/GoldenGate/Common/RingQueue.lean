import Mathlib.Data.List.Rotate
import GoldenGate.Common.RingBuffer

/-! # Ring buffers as queues

The functions of `gg_ring_buffer.c` that read, skip and look ahead, and the ring buffer as a queue
of bytes with one place less than the array has. What is read starts at the out index and goes
around the end of the array: it is the front of the array, rotated to that index.
-/

namespace GoldenGate

open Memory

namespace RingBuffer

/-- `GG_RingBuffer_Reset`. -/
def reset (self : RingBuffer) : RingBuffer := { self with in_ := 0, out := 0 }

/-- `GG_RingBuffer_GetContiguousSpace`. -/
def getContiguousSpace (self : RingBuffer) : Nat :=
  if self.in_ < self.out then self.out - self.in_ - 1
  else if self.out = 0 then self.size - self.in_ - 1
  else self.size - self.in_

/-- `GG_RingBuffer_GetContiguousAvailable`. -/
def getContiguousAvailable (self : RingBuffer) : Nat :=
  if self.out ≤ self.in_ then self.in_ - self.out else self.size - self.out

/-- Copy one contiguous chunk out, and wrap at the end of the array. -/
def readChunk (self : RingBuffer) (size : Nat) : Access (List UInt8 × RingBuffer) := do
  let bytes ← loadBytes self.data self.out size
  let out := self.out + size
  return (bytes, { self with out := if out = self.size then 0 else out })

/-- `GG_RingBuffer_Read`: the bytes that are read, and the buffer after it. -/
def read (self : RingBuffer) (size : Nat) : Access (List UInt8 × RingBuffer) := do
  let size := min size self.getAvailable
  if size = 0 then return ([], self)
  if self.in_ > self.out then self.readChunk size
  else
    let chunk := min size (self.size - self.out)
    let (bytes, self) ← self.readChunk chunk
    if chunk ≠ size then
      let (rest, self) ← self.readChunk (size - chunk)
      return (bytes ++ rest, self)
    else return (bytes, self)

/-- `GG_RingBuffer_Peek`. -/
def peek (self : RingBuffer) (offset size : Nat) : Access (List UInt8) := do
  let canRead := self.getAvailable
  if offset ≥ canRead then return []
  let size := min size (canRead - offset)
  if size = 0 then return []
  let out := self.out + offset
  let out := if out ≥ self.size then out - self.size else out
  if self.in_ > out then loadBytes self.data out size
  else
    let chunk := min size (self.size - out)
    let bytes ← loadBytes self.data out chunk
    if chunk ≠ size then
      let rest ← loadBytes self.data 0 (size - chunk)
      return bytes ++ rest
    else return bytes

/-- `GG_RingBuffer_ReadByte`. -/
def readByte (self : RingBuffer) : Access (UInt8 × RingBuffer) := do
  assert (self.in_ ≠ self.out)
  let result ← load self.data self.out
  let out := self.out + 1
  return (result, { self with out := if out = self.size then 0 else out })

/-- `GG_RingBuffer_PeekByte`. -/
def peekByte (self : RingBuffer) (offset : Nat) : Access UInt8 :=
  let where_ := self.out + offset
  load self.data (if where_ ≥ self.size then where_ - self.size else where_)

/-- `GG_RingBuffer_MoveIn`. -/
def moveIn (self : RingBuffer) (offset : Nat) : RingBuffer :=
  let in_ := self.in_ + offset
  { self with in_ := if in_ ≥ self.size then in_ - self.size else in_ }

/-- `GG_RingBuffer_MoveOut`. -/
def moveOut (self : RingBuffer) (offset : Nat) : RingBuffer :=
  let out := self.out + offset
  { self with out := if out ≥ self.size then out - self.size else out }

/-- What a caller of `moveIn` does before: it stores bytes from the in index on, around the end of
    the array. -/
def fill (self : RingBuffer) (bytes : List UInt8) : Access RingBuffer := do
  let chunk := min bytes.length (self.size - self.in_)
  let data ← store self.data self.in_ (bytes.take chunk)
  let data ← store data 0 (bytes.drop chunk)
  return { self with data := data }

/-! ## What is in the array -/

theorem WellFormed.getAvailable_add {self : RingBuffer} (wellFormed : WellFormed self) :
    self.getAvailable + self.getSpace = self.data.length - 1 := by
  have inLt : self.in_ < self.data.length := wellFormed.in_lt
  have outLt : self.out < self.data.length := wellFormed.out_lt
  unfold getAvailable getSpace size
  split <;> split <;> omega

theorem WellFormed.getAvailable_lt {self : RingBuffer} (wellFormed : WellFormed self) :
    self.getAvailable < self.data.length := by
  have total := wellFormed.getAvailable_add
  have inLt : self.in_ < self.data.length := wellFormed.in_lt
  omega

/-- The contents are the front of the array, rotated to the out index. -/
theorem WellFormed.contents_eq {self : RingBuffer} (wellFormed : WellFormed self) :
    self.contents = (self.data.rotate self.out).take self.getAvailable := by
  have inLt : self.in_ < self.data.length := wellFormed.in_lt
  have outLt : self.out < self.data.length := wellFormed.out_lt
  rw [List.rotate_eq_drop_append_take (Nat.le_of_lt outLt)]
  unfold contents getAvailable size
  split
  case isTrue order =>
      rw [List.take_append_of_le_length (by rw [List.length_drop]; omega), List.drop_take]
  case isFalse order =>
      have past : self.data.length - self.out + self.in_ = (self.data.drop self.out).length + self.in_ := by
        rw [List.length_drop]
      rw [past, List.take_length_add_append, List.take_take, Nat.min_eq_left (by omega)]

theorem WellFormed.length_contents {self : RingBuffer} (wellFormed : WellFormed self) :
    self.contents.length = self.getAvailable := by
  have few := wellFormed.getAvailable_lt
  rw [wellFormed.contents_eq, List.length_take, List.length_rotate]
  omega

/-- A part of the array is a part of what is read, when it does not go around the end. -/
theorem loadBytes_rotate {data : List UInt8} {out size : Nat} (fits : out + size ≤ data.length) :
    loadBytes data out size = .ok ((data.rotate out).take size) := by
  rw [loadBytes, if_pos fits, List.rotate_eq_drop_append_take (by omega),
    List.take_append_of_le_length (by rw [List.length_drop]; omega)]

theorem take_rotate_drop {data : List UInt8} {out available size : Nat} (few : size ≤ available)
    (fits : available ≤ data.length) :
    ((data.rotate out).take available).drop size = (data.rotate (out + size)).take (available - size) := by
  rw [← List.rotate_rotate]
  have length : (data.rotate out).length = data.length := List.length_rotate data out
  generalize data.rotate out = rotated at *
  rw [List.rotate_eq_drop_append_take (by omega),
    List.take_append_of_le_length (by rw [List.length_drop]; omega), List.drop_take]

/-! ## Moving out -/

theorem moveOut_out {self : RingBuffer} (wellFormed : WellFormed self) {offset : Nat} (few : offset ≤ self.getAvailable) :
    (self.moveOut offset).out = (self.out + offset) % self.data.length ∧
      (self.moveOut offset).getAvailable = self.getAvailable - offset := by
  have total := wellFormed.getAvailable_lt
  obtain ⟨inLt, outLt⟩ := wellFormed
  obtain ⟨data, in_, out⟩ := self
  simp only [size, getAvailable, moveOut] at *
  split
  case isTrue past =>
      rw [Nat.mod_eq_sub_mod past, Nat.mod_eq_of_lt (by omega)]
      refine ⟨rfl, ?_⟩
      split_ifs at few ⊢ <;> omega
  case isFalse inside =>
      rw [Nat.mod_eq_of_lt (by omega)]
      refine ⟨rfl, ?_⟩
      split_ifs at few ⊢ <;> omega

/-- Moving out drops the oldest bytes. -/
theorem moveOut_spec {self : RingBuffer} (wellFormed : WellFormed self) {offset : Nat} (few : offset ≤ self.getAvailable) :
    WellFormed (self.moveOut offset) ∧ (self.moveOut offset).contents = self.contents.drop offset := by
  have total := wellFormed.getAvailable_lt
  obtain ⟨isOut, available⟩ := moveOut_out wellFormed few
  have formed : WellFormed (self.moveOut offset) := by
    refine ⟨wellFormed.in_lt, ?_⟩
    rw [isOut]
    exact Nat.mod_lt _ (Nat.lt_of_le_of_lt (Nat.zero_le _) wellFormed.in_lt)
  refine ⟨formed, ?_⟩
  rw [formed.contents_eq, wellFormed.contents_eq, take_rotate_drop few (Nat.le_of_lt total), available, isOut]
  exact congrArg (List.take _) (List.rotate_mod self.data (self.out + offset))

theorem moveOut_zero {self : RingBuffer} (wellFormed : WellFormed self) : self.moveOut 0 = self := by
  have outLt : self.out < self.size := wellFormed.out_lt
  rw [moveOut, Nat.add_zero, if_neg (by omega)]

theorem moveOut_add {self : RingBuffer} (wellFormed : WellFormed self) {first second : Nat}
    (few : first + second ≤ self.getAvailable) : (self.moveOut first).moveOut second = self.moveOut (first + second) := by
  have total := wellFormed.getAvailable_lt
  obtain ⟨inLt, outLt⟩ := wellFormed
  obtain ⟨data, in_, out⟩ := self
  simp only [size, moveOut, mk.injEq, true_and] at *
  split_ifs <;> omega

/-! ## Reading -/

/-- One chunk that does not go around the end is read from the front of the queue. -/
theorem readChunk_eq {self : RingBuffer} (wellFormed : WellFormed self) {size : Nat} (few : size ≤ self.getAvailable)
    (contiguous : self.out + size ≤ self.data.length) :
    self.readChunk size = .ok (self.contents.take size, self.moveOut size) := by
  have wraps : (if self.out + size = self.size then 0 else self.out + size) =
      if self.out + size ≥ self.size then self.out + size - self.size else self.out + size := by
    unfold RingBuffer.size
    split <;> split <;> omega
  rw [readChunk, loadBytes_rotate contiguous, ok_bind]
  dsimp only
  rw [wraps, wellFormed.contents_eq, List.take_take, Nat.min_eq_left few]
  rfl

/-- Reading takes the oldest bytes. -/
theorem read_spec {self : RingBuffer} (wellFormed : WellFormed self) (size : Nat) :
    self.read size = .ok (self.contents.take size, self.moveOut (min size self.getAvailable)) := by
  have inLt : self.in_ < self.data.length := wellFormed.in_lt
  have outLt : self.out < self.data.length := wellFormed.out_lt
  have total := wellFormed.getAvailable_lt
  have taken : self.contents.take size = self.contents.take (min size self.getAvailable) := by
    rw [← wellFormed.length_contents, List.take_eq_take_iff]
    omega
  have few : min size self.getAvailable ≤ self.getAvailable := Nat.min_le_right _ _
  rw [taken, read]
  generalize min size self.getAvailable = n at *
  split
  case isTrue nothing =>
      rw [nothing, List.take_zero, moveOut_zero wellFormed]
      rfl
  case isFalse something =>
      split
      case isTrue order =>
          have available : self.getAvailable = self.in_ - self.out := if_pos (by omega)
          exact readChunk_eq wellFormed few (by omega)
      case isFalse order =>
          dsimp only [RingBuffer.size]
          rw [readChunk_eq wellFormed (by omega) (by omega), ok_bind]
          dsimp only
          split
          case isTrue parts =>
              have chunk : min n (self.data.length - self.out) = self.data.length - self.out := by omega
              rw [chunk] at parts ⊢
              have little : self.data.length - self.out ≤ self.getAvailable := by omega
              obtain ⟨isOut, available⟩ := moveOut_out wellFormed little
              obtain ⟨formed, contents⟩ := moveOut_spec wellFormed little
              rw [Nat.add_sub_cancel' (by omega), Nat.mod_self] at isOut
              have sameData : (self.moveOut (self.data.length - self.out)).data = self.data := rfl
              rw [readChunk_eq formed (by omega) (by rw [isOut, sameData]; omega), ok_bind, contents,
                moveOut_add wellFormed (by omega), Nat.add_sub_cancel' (by omega), pure_ok, ← List.take_add,
                Nat.add_sub_cancel' (by omega)]
          case isFalse whole => rw [show min n (self.data.length - self.out) = n by omega, pure_ok]

/-- The two parts of what is read around the end of the array. -/
theorem loadBytes_around {data : List UInt8} {out size : Nat} (inside : out ≤ data.length)
    (around : data.length ≤ out + size) (fits : size ≤ data.length) :
    ∃ rest, loadBytes data 0 (size - (data.length - out)) = .ok rest ∧
      (data.rotate out).take (data.length - out) ++ rest = (data.rotate out).take size := by
  refine ⟨data.take (size - (data.length - out)), ?_, ?_⟩
  · rw [loadBytes, if_pos (by omega), List.drop_zero]
  · rw [List.rotate_eq_drop_append_take inside]
    have front : (data.drop out ++ data.take out).take (data.length - out) = data.drop out :=
      List.take_left' (by rw [List.length_drop])
    have whole : size = (data.drop out).length + (size - (data.length - out)) := by
      rw [List.length_drop]
      omega
    conv_rhs => rw [whole]
    rw [front, List.take_length_add_append, List.take_take, Nat.min_eq_left (by omega)]

/-- Looking ahead sees what reading would give after the bytes before. -/
theorem peek_spec {self : RingBuffer} (wellFormed : WellFormed self) (offset size : Nat) :
    self.peek offset size = .ok ((self.contents.drop offset).take size) := by
  have length := wellFormed.length_contents
  unfold peek
  dsimp only
  split
  case isTrue past =>
      rw [List.drop_eq_nil_of_le (by omega), List.take_nil]
      rfl
  case isFalse inside =>
      have few : offset ≤ self.getAvailable := by omega
      obtain ⟨-, available⟩ := moveOut_out wellFormed few
      obtain ⟨formed, contents⟩ := moveOut_spec wellFormed few
      have inLt : self.in_ < self.data.length := formed.in_lt
      have outLt : (self.moveOut offset).out < self.data.length := formed.out_lt
      have total := wellFormed.getAvailable_lt
      have isContents : (self.contents.drop offset).take size =
          (self.data.rotate (self.moveOut offset).out).take (min size (self.getAvailable - offset)) := by
        rw [← contents, formed.contents_eq, List.take_take, available]
        rfl
      rw [isContents]
      generalize count : min size (self.getAvailable - offset) = n
      split
      case isTrue nothing =>
          rw [nothing, List.take_zero]
          rfl
      case isFalse something =>
          change (if self.in_ > (self.moveOut offset).out then _ else _) = _
          have order : self.in_ > (self.moveOut offset).out → self.getAvailable - offset = self.in_ - (self.moveOut offset).out := by
            intro order
            rw [← available]
            exact if_pos (Nat.le_of_lt order)
          split
          case isTrue ahead =>
              have inOrder := order ahead
              change loadBytes self.data (self.moveOut offset).out n = _
              exact loadBytes_rotate (by omega)
          case isFalse behind =>
              change (loadBytes self.data (self.moveOut offset).out (min n (self.data.length - (self.moveOut offset).out)) >>= _) = _
              rw [loadBytes_rotate (by omega), ok_bind]
              change (if min n (self.data.length - (self.moveOut offset).out) ≠ n then
                loadBytes self.data 0 (n - min n (self.data.length - (self.moveOut offset).out)) >>= _ else _) = _
              split
              case isTrue parts =>
                  have chunk : min n (self.data.length - (self.moveOut offset).out) =
                      self.data.length - (self.moveOut offset).out := by omega
                  obtain ⟨rest, loaded, both⟩ := @loadBytes_around self.data _ n (Nat.le_of_lt outLt) (by omega) (by omega)
                  rw [chunk, loaded, ok_bind, both, pure_ok]
              case isFalse whole => rw [not_not.mp whole, pure_ok]

/-- The byte at the out index is the oldest one. -/
theorem load_out {self : RingBuffer} (wellFormed : WellFormed self) (some_ : 0 < self.getAvailable) :
    ∃ byte, load self.data self.out = .ok byte ∧ self.contents.take 1 = [byte] := by
  have outLt : self.out < self.data.length := wellFormed.out_lt
  refine ⟨self.data[self.out], load_lt outLt, ?_⟩
  rw [wellFormed.contents_eq, List.take_take, Nat.min_eq_left some_, List.rotate_eq_drop_append_take (Nat.le_of_lt outLt),
    List.drop_eq_getElem_cons outLt]
  rfl

theorem readByte_spec {self : RingBuffer} (wellFormed : WellFormed self) (some_ : 0 < self.getAvailable) :
    ∃ byte, self.readByte = .ok (byte, self.moveOut 1) ∧ self.contents.take 1 = [byte] := by
  obtain ⟨byte, loaded, first⟩ := load_out wellFormed some_
  refine ⟨byte, ?_, first⟩
  have apart : self.in_ ≠ self.out := by
    intro same
    unfold getAvailable at some_
    rw [same, if_pos (Nat.le_refl _), Nat.sub_self] at some_
    exact absurd some_ (Nat.lt_irrefl 0)
  have outLt : self.out < self.size := wellFormed.out_lt
  have wraps : (if self.out + 1 = self.size then 0 else self.out + 1) =
      if self.out + 1 ≥ self.size then self.out + 1 - self.size else self.out + 1 := by
    split <;> split <;> omega
  rw [readByte, assert_of apart, ok_bind, loaded, ok_bind]
  dsimp only
  rw [wraps]
  rfl

theorem peekByte_spec {self : RingBuffer} (wellFormed : WellFormed self) {offset : Nat} (inside : offset < self.getAvailable) :
    ∃ byte, self.peekByte offset = .ok byte ∧ (self.contents.drop offset).take 1 = [byte] := by
  obtain ⟨-, available⟩ := moveOut_out wellFormed (Nat.le_of_lt inside)
  obtain ⟨formed, contents⟩ := moveOut_spec wellFormed (Nat.le_of_lt inside)
  obtain ⟨byte, loaded, first⟩ := load_out formed (by omega)
  exact ⟨byte, loaded, contents ▸ first⟩

/-! ## Moving in -/

theorem store_nothing {region : List UInt8} {offset : Nat} (inside : offset ≤ region.length) :
    store region offset [] = .ok region := by
  rw [store, if_pos (by simpa using inside)]
  simp

theorem store_fits {region bytes : List UInt8} {offset : Nat} (fits : offset + bytes.length ≤ region.length) :
    ∃ stored, store region offset bytes = .ok stored ∧ stored.length = region.length := by
  refine ⟨_, if_pos fits, ?_⟩
  simp only [List.length_append, List.length_take, List.length_drop]
  omega

/-- Filling and moving in is writing. -/
theorem fill_moveIn {self : RingBuffer} (wellFormed : WellFormed self) {bytes : List UInt8}
    (space : bytes.length ≤ self.getSpace) :
    (self.fill bytes >>= fun filled => .ok (bytes.length, filled.moveIn bytes.length)) = self.write bytes := by
  have inLt : self.in_ < self.data.length := wellFormed.in_lt
  have outLt : self.out < self.data.length := wellFormed.out_lt
  unfold write
  rw [Nat.min_eq_left space]
  dsimp only
  split
  case isTrue nothing =>
      cases List.length_eq_zero_iff.mp nothing
      simp [fill, moveIn, store_nothing, Nat.le_of_lt inLt, Nat.not_le_of_lt inLt]
  case isFalse something =>
      unfold fill
      cases whole : decide (self.in_ + bytes.length ≤ self.data.length) with
      | true =>
          have fits : self.in_ + bytes.length ≤ self.data.length := of_decide_eq_true whole
          obtain ⟨stored, stores, length⟩ := store_fits fits
          have chunk : min bytes.length (self.data.length - self.in_) = bytes.length := by omega
          have wraps : (if self.in_ + bytes.length ≥ stored.length then self.in_ + bytes.length - stored.length
              else self.in_ + bytes.length) =
                if self.in_ + bytes.length = stored.length then 0 else self.in_ + bytes.length := by
            split <;> split <;> omega
          rw [length] at wraps
          simp [size, chunk, stores, store_nothing, moveIn, writeChunk, length, wraps]
      | false =>
          have around : ¬self.in_ + bytes.length ≤ self.data.length := of_decide_eq_false whole
          have chunk : min bytes.length (self.data.length - self.in_) = self.data.length - self.in_ := by omega
          have behind : ¬self.in_ < self.out := by
            intro ahead
            rw [getSpace, if_pos ahead] at space
            omega
          have front : (bytes.take (self.data.length - self.in_)).length = self.data.length - self.in_ := by
            rw [List.length_take]
            omega
          have back : (bytes.drop (self.data.length - self.in_)).length + self.data.length = self.in_ + bytes.length := by
            rw [List.length_drop]
            omega
          rw [getSpace, if_neg behind] at space
          obtain ⟨stored, stores, length⟩ := @store_fits self.data (bytes.take (self.data.length - self.in_)) self.in_
            (by omega)
          obtain ⟨stored', stores', length'⟩ := @store_fits stored (bytes.drop (self.data.length - self.in_)) 0 (by
            simp only [size] at space
            omega)
          have parts : self.data.length - self.in_ ≠ bytes.length := by omega
          have wraps : self.in_ + (self.data.length - self.in_) = self.data.length := by omega
          have isShort : ¬(bytes.drop (self.data.length - self.in_)).length = stored.length := by
            simp only [size] at space
            omega
          rw [List.length_drop] at isShort back
          have past : self.in_ + bytes.length ≥ stored'.length := by omega
          have moved : self.in_ + bytes.length - stored'.length = bytes.length - (self.data.length - self.in_) := by omega
          simp [size, chunk, stores, stores', moveIn, writeChunk, front, behind, parts, wraps, isShort, past, moved]

/-! ## The contiguous parts -/

theorem getContiguousSpace_eq {self : RingBuffer} (wellFormed : WellFormed self) :
    self.getContiguousSpace = min self.getSpace (self.size - self.in_) := by
  have inLt : self.in_ < self.data.length := wellFormed.in_lt
  have outLt : self.out < self.data.length := wellFormed.out_lt
  unfold getContiguousSpace getSpace size
  split_ifs <;> omega

theorem getContiguousAvailable_eq {self : RingBuffer} (wellFormed : WellFormed self) :
    self.getContiguousAvailable = min self.getAvailable (self.size - self.out) := by
  have inLt : self.in_ < self.data.length := wellFormed.in_lt
  have outLt : self.out < self.data.length := wellFormed.out_lt
  unfold getContiguousAvailable getAvailable size
  split_ifs <;> omega

/-- The first segment of the data is in the array as it is in the queue. -/
theorem loadBytes_contiguous {self : RingBuffer} (wellFormed : WellFormed self) :
    loadBytes self.data self.out self.getContiguousAvailable = .ok (self.contents.take self.getContiguousAvailable) := by
  have outLt : self.out < self.data.length := wellFormed.out_lt
  have isFirst := getContiguousAvailable_eq wellFormed
  unfold size at isFirst
  rw [loadBytes_rotate (by omega), wellFormed.contents_eq, List.take_take, Nat.min_eq_left (by omega)]

end RingBuffer

/-! ## The queue -/

/-- A queue of bytes with a bounded number of places. -/
structure ByteQueue (capacity : Nat) where
  bytes : List UInt8
  bounded : bytes.length ≤ capacity

/-- What may be called on a ring buffer. Before it moves in, a caller stores the bytes. -/
inductive RingCall where
  | reset
  | write (buffer : List UInt8)
  | read (size : Nat)
  | readByte
  | peek (offset size : Nat)
  | peekByte (offset : Nat)
  | moveIn (bytes : List UInt8)
  | moveOut (offset : Nat)
  deriving Repr, DecidableEq

inductive RingAnswer where
  | nothing
  | count (count : Nat)
  | bytes (bytes : List UInt8)
  deriving Repr, DecidableEq

namespace ByteQueue

variable {capacity : Nat}

def empty : ByteQueue capacity := ⟨[], Nat.zero_le capacity⟩

def space (queue : ByteQueue capacity) : Nat := capacity - queue.bytes.length

/-- Append as much as there is space for. -/
def append (queue : ByteQueue capacity) (bytes : List UInt8) : ByteQueue capacity where
  bytes := queue.bytes ++ bytes.take queue.space
  bounded := by
    have bounded := queue.bounded
    rw [List.length_append, List.length_take, space]
    omega

/-- Drop the oldest bytes. -/
def skip (queue : ByteQueue capacity) (count : Nat) : ByteQueue capacity where
  bytes := queue.bytes.drop count
  bounded := by
    rw [List.length_drop]
    exact Nat.le_trans (Nat.sub_le _ _) queue.bounded

theorem skip_min (queue : ByteQueue capacity) (count : Nat) :
    queue.skip (min count queue.bytes.length) = queue.skip count := by
  unfold skip
  congr 1
  apply List.drop_eq_drop_iff.mpr
  omega

def call (queue : ByteQueue capacity) : RingCall → ByteQueue capacity × RingAnswer
  | .reset => (empty, .nothing)
  | .write buffer => (queue.append buffer, .count (min buffer.length queue.space))
  | .read size => (queue.skip size, .bytes (queue.bytes.take size))
  | .readByte => (queue.skip 1, .bytes (queue.bytes.take 1))
  | .peek offset size => (queue, .bytes ((queue.bytes.drop offset).take size))
  | .peekByte offset => (queue, .bytes ((queue.bytes.drop offset).take 1))
  | .moveIn bytes => (queue.append bytes, .nothing)
  | .moveOut offset => (queue.skip offset, .nothing)

/-- What a caller must see to. -/
def Permits (queue : ByteQueue capacity) : RingCall → Prop
  | .readByte => queue.bytes ≠ []
  | .peekByte offset => offset < queue.bytes.length
  | .moveIn bytes => bytes.length ≤ queue.space
  | .moveOut offset => offset ≤ queue.bytes.length
  | _ => True

instance (queue : ByteQueue capacity) : (call : RingCall) → Decidable (queue.Permits call)
  | .readByte => inferInstanceAs (Decidable (queue.bytes ≠ []))
  | .peekByte offset => inferInstanceAs (Decidable (offset < queue.bytes.length))
  | .moveIn bytes => inferInstanceAs (Decidable (bytes.length ≤ queue.space))
  | .moveOut offset => inferInstanceAs (Decidable (offset ≤ queue.bytes.length))
  | .reset | .write _ | .read _ | .peek _ _ => isTrue trivial

def calls (queue : ByteQueue capacity) : List RingCall → ByteQueue capacity × List RingAnswer
  | [] => (queue, [])
  | call :: rest =>
      let (queue, answer) := queue.call call
      let (queue, answers) := queue.calls rest
      (queue, answer :: answers)

def PermitsAll (queue : ByteQueue capacity) : List RingCall → Prop
  | [] => True
  | call :: rest => queue.Permits call ∧ (queue.call call).1.PermitsAll rest

end ByteQueue

namespace RingBuffer

def call (self : RingBuffer) : RingCall → Access (RingBuffer × RingAnswer)
  | .reset => return (self.reset, .nothing)
  | .write buffer => do
      let (count, self) ← self.write buffer
      return (self, .count count)
  | .read size => do
      let (bytes, self) ← self.read size
      return (self, .bytes bytes)
  | .readByte => do
      let (byte, self) ← self.readByte
      return (self, .bytes [byte])
  | .peek offset size => do
      let bytes ← self.peek offset size
      return (self, .bytes bytes)
  | .peekByte offset => do
      let byte ← self.peekByte offset
      return (self, .bytes [byte])
  | .moveIn bytes => do
      let self ← self.fill bytes
      return (self.moveIn bytes.length, .nothing)
  | .moveOut offset => return (self.moveOut offset, .nothing)

def calls (self : RingBuffer) : List RingCall → Access (RingBuffer × List RingAnswer)
  | [] => return (self, [])
  | call :: rest => do
      let (self, answer) ← self.call call
      let (self, answers) ← self.calls rest
      return (self, answer :: answers)

/-- The ring buffer holds the bytes of the queue. -/
structure Holds {capacity : Nat} (ring : RingBuffer) (queue : ByteQueue capacity) : Prop where
  formed : ring.WellFormed
  sized : ring.size = capacity + 1
  holds : ring.contents = queue.bytes

section Holds

variable {capacity : Nat} {self : RingBuffer} {queue : ByteQueue capacity}

theorem Holds.getAvailable (holds : Holds self queue) : self.getAvailable = queue.bytes.length := by
  rw [← holds.formed.length_contents, holds.holds]

theorem Holds.getSpace (holds : Holds self queue) : self.getSpace = queue.space := by
  have total := holds.formed.getAvailable_add
  have sized : self.data.length = capacity + 1 := holds.sized
  have available := holds.getAvailable
  unfold ByteQueue.space
  omega

theorem Holds.moveOut (holds : Holds self queue) {offset : Nat} (few : offset ≤ queue.bytes.length) :
    Holds (self.moveOut offset) (queue.skip offset) := by
  obtain ⟨formed, contents⟩ := moveOut_spec holds.formed (holds.getAvailable ▸ few)
  exact ⟨formed, holds.sized, by rw [contents, holds.holds]; rfl⟩

theorem Holds.write (holds : Holds self queue) (buffer : List UInt8) :
    ∃ next, self.write buffer = .ok (min buffer.length queue.space, next) ∧ Holds next (queue.append buffer) := by
  obtain ⟨next, written, formed, sized, -, contents⟩ := write_spec holds.formed buffer
  rw [holds.getSpace] at written contents
  exact ⟨next, written, formed, sized.trans holds.sized, by rw [contents, holds.holds]; rfl⟩

/-- Every call does to the ring buffer what it does to the queue, with the same answer. -/
theorem Holds.call (holds : Holds self queue) {call : RingCall} (permitted : queue.Permits call) :
    ∃ next, self.call call = .ok (next, (queue.call call).2) ∧ Holds next (queue.call call).1 := by
  have available := holds.getAvailable
  cases call with
  | reset =>
      have positive : 0 < self.size := Nat.lt_of_le_of_lt (Nat.zero_le _) holds.formed.in_lt
      exact ⟨self.reset, rfl, ⟨positive, positive⟩, holds.sized, by simp [contents, reset, ByteQueue.call, ByteQueue.empty]⟩
  | write buffer =>
      obtain ⟨next, written, holds'⟩ := holds.write buffer
      exact ⟨next, by rw [RingBuffer.call, written]; rfl, holds'⟩
  | read size =>
      have holds' := holds.moveOut (Nat.min_le_right size queue.bytes.length)
      rw [ByteQueue.skip_min] at holds'
      exact ⟨_, by rw [RingBuffer.call, read_spec holds.formed, available, holds.holds]; rfl, holds'⟩
  | readByte =>
      have some_ : 0 < queue.bytes.length := List.length_pos_iff.mpr permitted
      obtain ⟨byte, reads, first⟩ := readByte_spec holds.formed (available ▸ some_)
      rw [holds.holds] at first
      exact ⟨self.moveOut 1, by rw [RingBuffer.call, reads, ByteQueue.call, first]; rfl, holds.moveOut some_⟩
  | peek offset size => exact ⟨self, by rw [RingBuffer.call, peek_spec holds.formed, holds.holds]; rfl, holds⟩
  | peekByte offset =>
      obtain ⟨byte, peeks, first⟩ := peekByte_spec holds.formed (show offset < self.getAvailable from available ▸ permitted)
      rw [holds.holds] at first
      exact ⟨self, by rw [RingBuffer.call, peeks, ByteQueue.call, first]; rfl, holds⟩
  | moveIn bytes =>
      obtain ⟨next, written, holds'⟩ := holds.write bytes
      rw [← fill_moveIn holds.formed (holds.getSpace ▸ permitted)] at written
      obtain ⟨filled, fills, moved⟩ := bind_ok written
      have moved' : filled.moveIn bytes.length = next := (Prod.mk.inj (Except.ok.inj moved)).2
      exact ⟨next, by rw [RingBuffer.call, fills, ← moved']; rfl, holds'⟩
  | moveOut offset => exact ⟨_, rfl, holds.moveOut permitted⟩

theorem Holds.calls (holds : Holds self queue) {calls : List RingCall} (permitted : queue.PermitsAll calls) :
    ∃ ring, self.calls calls = .ok (ring, (queue.calls calls).2) ∧ Holds ring (queue.calls calls).1 := by
  induction calls generalizing self queue with
  | nil => exact ⟨self, rfl, holds⟩
  | cons call rest ih =>
      obtain ⟨next, called, holds'⟩ := holds.call permitted.1
      obtain ⟨ring, called', holds''⟩ := ih holds' permitted.2
      exact ⟨ring, by rw [RingBuffer.calls, called, ok_bind]; dsimp only; rw [called']; rfl, holds''⟩

end Holds

end RingBuffer

/-- A ring buffer is a queue with one place less than its array has, over any run of calls. -/
theorem ring_refines_queue {buffer : List UInt8} (nonempty : buffer ≠ []) (calls : List RingCall)
    (permitted : (ByteQueue.empty : ByteQueue (buffer.length - 1)).PermitsAll calls) :
    let queue := ((ByteQueue.empty : ByteQueue (buffer.length - 1)).calls calls).1
    ∃ ring : RingBuffer,
      (RingBuffer.init buffer).calls calls =
        .ok (ring, ((ByteQueue.empty : ByteQueue (buffer.length - 1)).calls calls).2) ∧
      ring.contents = queue.bytes ∧ ring.getAvailable = queue.bytes.length ∧ ring.getSpace = queue.space ∧
      ring.getAvailable + ring.getSpace = buffer.length - 1 ∧
      ring.getContiguousSpace = min queue.space (buffer.length - ring.in_) ∧
      ring.getContiguousAvailable = min queue.bytes.length (buffer.length - ring.out) ∧
      loadBytes ring.data ring.out ring.getContiguousAvailable = .ok (queue.bytes.take ring.getContiguousAvailable) := by
  intro queue
  have positive : 0 < buffer.length := List.length_pos_iff.mpr nonempty
  have start : RingBuffer.Holds (RingBuffer.init buffer) (ByteQueue.empty : ByteQueue (buffer.length - 1)) :=
    ⟨RingBuffer.wellFormed_init nonempty, (Nat.succ_pred_eq_of_pos positive).symm, by
      simp [RingBuffer.contents, RingBuffer.init, ByteQueue.empty]⟩
  obtain ⟨ring, called, holds⟩ := start.calls permitted
  have formed := holds.formed
  have sized : ring.size = buffer.length := holds.sized.trans (Nat.succ_pred_eq_of_pos positive)
  have total : ring.getAvailable + ring.getSpace = ring.size - 1 := formed.getAvailable_add
  refine ⟨ring, called, holds.holds, holds.getAvailable, holds.getSpace, sized ▸ total, ?_, ?_, ?_⟩
  · rw [RingBuffer.getContiguousSpace_eq formed, holds.getSpace, sized]
  · rw [RingBuffer.getContiguousAvailable_eq formed, holds.getAvailable, sized]
  · rw [RingBuffer.loadBytes_contiguous formed, holds.holds]

/-- Five places around the end of an array of six. -/
theorem ring_refines_queue_around :
    ∃ ring : RingBuffer, (RingBuffer.init [0, 0, 0, 0, 0, 0]).calls
        [.write [1, 2, 3, 4], .read 3, .moveIn [5, 6, 7, 8], .peek 1 3, .readByte, .write [9, 10]] =
      .ok (ring, [.count 4, .bytes [1, 2, 3], .nothing, .bytes [5, 6, 7], .bytes [4], .count 1]) ∧
      ring.contents = [5, 6, 7, 8, 9] := by
  obtain ⟨ring, called, contents, -⟩ := @ring_refines_queue [0, 0, 0, 0, 0, 0] (by decide)
    [.write [1, 2, 3, 4], .read 3, .moveIn [5, 6, 7, 8], .peek 1 3, .readByte, .write [9, 10]]
    ⟨trivial, trivial, by decide, trivial, by decide, trivial, trivial⟩
  exact ⟨ring, called, contents⟩

end GoldenGate
