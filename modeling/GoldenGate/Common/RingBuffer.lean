import GoldenGate.Lib.Memory

/-! # Ring buffers

The embedding of `gg_ring_buffer.c`: a byte array with an in and an out index. One
byte of the array stays free, so that equal indices mean empty. A well-formed ring
buffer is a queue, its `contents`.
-/

namespace GoldenGate

open Memory

/-- `GG_RingBuffer`; the pointers are offsets from `data.start`, the size is the
    length of `data`. -/
structure RingBuffer where
  data : List UInt8
  in_ : Nat
  out : Nat
  deriving Repr, DecidableEq

namespace RingBuffer

def init (buffer : List UInt8) : RingBuffer := ⟨buffer, 0, 0⟩

abbrev size (self : RingBuffer) : Nat := self.data.length

/-- `GG_RingBuffer_GetSpace`. -/
def getSpace (self : RingBuffer) : Nat :=
  if self.in_ < self.out then self.out - self.in_ - 1
  else self.size - self.in_ + self.out - 1

/-- `GG_RingBuffer_GetAvailable`. -/
def getAvailable (self : RingBuffer) : Nat :=
  if self.out ≤ self.in_ then self.in_ - self.out
  else self.size - self.out + self.in_

/-- Copy one contiguous chunk in, and wrap at the end of the array. -/
def writeChunk (self : RingBuffer) (bytes : List UInt8) : Access RingBuffer := do
  let data ← store self.data self.in_ bytes
  let in_ := self.in_ + bytes.length
  return { self with data := data, in_ := if in_ = self.size then 0 else in_ }

/-- `GG_RingBuffer_Write`: how much was written, and the buffer after it. -/
def write (self : RingBuffer) (buffer : List UInt8) : Access (Nat × RingBuffer) := do
  let size := min buffer.length self.getSpace
  if size = 0 then return (0, self)
  if self.in_ < self.out then
    let self ← self.writeChunk (buffer.take size)
    return (size, self)
  else
    let chunk := min size (self.size - self.in_)
    let self ← self.writeChunk (buffer.take chunk)
    if chunk ≠ size then
      let self ← self.writeChunk ((buffer.take size).drop chunk)
      return (size, self)
    else return (size, self)

/-- The bytes in the queue, oldest first. -/
def contents (self : RingBuffer) : List UInt8 :=
  if self.out ≤ self.in_ then (self.data.take self.in_).drop self.out
  else self.data.drop self.out ++ self.data.take self.in_

/-- Both indices are inside the array. -/
structure WellFormed (ring : RingBuffer) : Prop where
  in_lt : ring.in_ < ring.size
  out_lt : ring.out < ring.size

theorem wellFormed_init {buffer : List UInt8} (nonempty : buffer ≠ []) :
    WellFormed (init buffer) := by
  have positive := List.length_pos_iff.mpr nonempty
  exact ⟨positive, positive⟩

theorem WellFormed.getSpace_le {self : RingBuffer} (wellFormed : WellFormed self) : self.getSpace ≤ self.size - 1 := by
  have inLt := wellFormed.in_lt
  have outLt := wellFormed.out_lt
  unfold getSpace
  split <;> omega

/-- One chunk that fits is appended to the queue. -/
theorem writeChunk_spec {self : RingBuffer} (wellFormed : WellFormed self) (bytes : List UInt8)
    (space : bytes.length ≤ self.getSpace)
    (contiguous : self.out ≤ self.in_ → self.in_ + bytes.length ≤ self.size) :
    ∃ next, self.writeChunk bytes = .ok next ∧ WellFormed next ∧ next.size = self.size ∧
      next.out = self.out ∧ next.getSpace = self.getSpace - bytes.length ∧
      next.contents = self.contents ++ bytes ∧
      next.in_ = if self.in_ + bytes.length = self.size then 0 else self.in_ + bytes.length := by
  obtain ⟨inLt, outLt⟩ := wellFormed
  obtain ⟨data, in_, out⟩ := self
  simp only [size, getSpace, contents] at *
  have fits : in_ + bytes.length ≤ data.length := by
    by_cases order : out ≤ in_
    · exact contiguous order
    · rw [if_pos (by omega)] at space
      omega
  have stored : store data in_ bytes =
      .ok (data.take in_ ++ bytes ++ data.drop (in_ + bytes.length)) := if_pos fits
  have sized : (data.take in_ ++ bytes ++ data.drop (in_ + bytes.length)).length = data.length := by
    simp only [List.length_append, List.length_take, List.length_drop]
    omega
  have front : (data.take in_ ++ bytes ++ data.drop (in_ + bytes.length)).take
      (in_ + bytes.length) = data.take in_ ++ bytes :=
    List.take_left' (by simp only [List.length_append, List.length_take]; omega)
  simp only [writeChunk, stored, ok_bind, pure_ok, size]
  refine ⟨_, rfl, ⟨?_, ?_⟩, sized, rfl, ?_, ?_, rfl⟩
  · simp only [size, sized]
    split <;> omega
  · simp only [size, sized]
    exact outLt
  · simp only [sized]
    by_cases wraps : in_ + bytes.length = data.length
    · simp only [wraps, if_true]
      split_ifs at * <;> omega
    · simp only [wraps, if_false]
      split_ifs at * <;> omega
  · simp only
    by_cases order : out ≤ in_
    · rw [if_neg (by omega)] at space
      have taken : (data.take in_ ++ bytes).drop out = (data.take in_).drop out ++ bytes :=
        List.drop_append_of_le_length (by simp only [List.length_take]; omega)
      by_cases wraps : in_ + bytes.length = data.length
      · have ahead : ¬ out ≤ 0 := by omega
        have none : data.drop (in_ + bytes.length) = [] := List.drop_eq_nil_of_le wraps.ge
        rw [if_pos wraps, if_neg ahead, if_pos order, none, List.append_nil, taken,
          List.take_zero, List.append_nil]
      · rw [if_neg wraps, if_pos (by omega), if_pos order, front, taken]
    · rw [if_pos (by omega)] at space
      have apart : ¬ in_ + bytes.length = data.length := by omega
      have behind : (data.take in_ ++ bytes ++ data.drop (in_ + bytes.length)).drop out =
          data.drop out := by
        have length : (data.take in_ ++ bytes).length = in_ + bytes.length := by
          simp only [List.length_append, List.length_take]
          omega
        rw [List.drop_append, length, List.drop_eq_nil_of_le (by omega), List.nil_append,
          List.drop_drop]
        congr 1
        omega
      rw [if_neg apart, if_neg (by omega), if_neg order, front, behind, List.append_assoc]

/-- A write appends as much as there is space for. -/
theorem write_spec {self : RingBuffer} (wellFormed : WellFormed self) (buffer : List UInt8) :
    ∃ next, self.write buffer = .ok (min buffer.length self.getSpace, next) ∧ WellFormed next ∧
      next.size = self.size ∧
      next.getSpace = self.getSpace - min buffer.length self.getSpace ∧
      next.contents = self.contents ++ buffer.take self.getSpace := by
  have taken : buffer.take (min buffer.length self.getSpace) = buffer.take self.getSpace := by
    rw [Nat.min_comm, List.take_eq_take_iff]
    omega
  have length : (buffer.take (min buffer.length self.getSpace)).length =
      min buffer.length self.getSpace := by
    simp
  rw [← taken]
  have few : min buffer.length self.getSpace ≤ self.getSpace := Nat.min_le_right _ _
  unfold write
  generalize min buffer.length self.getSpace = n at *
  by_cases nothing : n = 0
  · subst nothing
    exact ⟨self, by simp, wellFormed, rfl, by simp, by simp⟩
  simp only [nothing, if_false]
  by_cases order : self.in_ < self.out
  · obtain ⟨next, written, formed, sized, -, space, contents, -⟩ :=
      writeChunk_spec wellFormed (buffer.take n) (by omega) (by omega)
    exact ⟨next, by simp [order, written], formed, sized, by rw [space, length], contents⟩
  simp only [order, if_false]
  have inLt := wellFormed.in_lt
  generalize chunkEq : min n (self.size - self.in_) = chunk
  have chunkLength : (buffer.take chunk).length = chunk := by
    simp only [List.length_take] at length ⊢
    omega
  obtain ⟨next, written, formed, sized, outSame, space, contents, inNext⟩ :=
    writeChunk_spec wellFormed (buffer.take chunk) (by omega) (by omega)
  rw [written, ok_bind]
  by_cases whole : chunk = n
  · subst whole
    exact ⟨next, by simp, formed, sized, by rw [space, length], contents⟩
  · -- the rest goes to the start of the array
    have wrapped : next.in_ = 0 := by
      rw [inNext, chunkLength]
      exact if_pos (by omega)
    have restLength : ((buffer.take n).drop chunk).length = n - chunk := by
      rw [List.length_drop, length]
    have ahead : 0 < self.out := by
      have total : self.getSpace = self.size - self.in_ + self.out - 1 := if_neg order
      omega
    obtain ⟨last, writtenLast, formedLast, sizedLast, -, spaceLast, contentsLast, -⟩ :=
      writeChunk_spec formed ((buffer.take n).drop chunk) (by omega) (by omega)
    refine ⟨last, ?_, formedLast, sizedLast.trans sized, by omega, ?_⟩
    · simp only [ne_eq, whole, not_false_eq_true, if_true, writtenLast, ok_bind, pure_ok]
    · have shorter : (buffer.take n).take chunk = buffer.take chunk := by
        rw [List.take_take, Nat.min_eq_left (by omega)]
      rw [contentsLast, contents, List.append_assoc, ← shorter, List.take_append_drop]

end RingBuffer

end GoldenGate
