import GoldenGate.Common.BitStream

/-! # Sequences of fields in bit streams

Fields that are written, flushed and read back, and what a flush does to the position: it goes on
by one byte, however many bits were left.
-/

namespace GoldenGate

open Memory Bits

/-! ## Reading -/

/-- Behind the end of the data there are zeros. -/
theorem value_bitsFrom_past {data : List UInt8} {position : Nat} (past : 8 * data.length ≤ position) (n : Nat) :
    value (bitsFrom data position n) = 0 := by
  have zeros : bitsFrom data position n = bits n 0 := by
    rw [bits_zero, List.eq_replicate_iff]
    constructor
    · exact length_bitsFrom data position n
    · intro b member
      obtain ⟨i, -, rfl⟩ := List.mem_map.mp member
      have behind : data.length ≤ (position + i) / 8 := by omega
      rw [bitAt, List.getD_eq_default _ _ behind]
      exact Nat.zero_testBit _
  rw [zeros, value_bits, Nat.zero_mod]

namespace BitInputStream

/-- A byte for the cache: nothing is loaded from behind the data. -/
def loadByte (self : BitInputStream) (position : Nat) : Access UInt8 :=
  if position < self.bytes.length then load self.bytes position else .ok 0

/-- The loop of `GG_BitInputStream_ReadCache`, with its loads. -/
def loadCache (self : BitInputStream) : Access Nat :=
  (List.range 4).foldlM
    (fun result i => do
      let value ← self.loadByte (self.bytePosition + i)
      return (result <<< 8) ||| value.toNat) 0

/-- `GG_BitInputStream_Peek`. -/
def peek (self : BitInputStream) (bitCount : Nat) : Access Nat := do
  assert (bitCount ≤ bitstreamWordBits)
  if self.bitsCached ≥ bitCount then
    return (self.cache >>> (self.bitsCached - bitCount)) &&& bitMask bitCount
  else
    let word := self.readCache
    let cache := self.cache &&& bitMask self.bitsCached
    let bitCount := bitCount - self.bitsCached
    return (word >>> (bitstreamWordBits - bitCount)) |||
      (if bitCount = bitstreamWordBits then 0 else (cache <<< bitCount) % 2 ^ 32)

/-- Read fields of some widths. -/
def reads (self : BitInputStream) : List Nat → Access (List Nat × BitInputStream)
  | [] => return ([], self)
  | bitCount :: rest => do
      let (x, self) ← self.read bitCount
      let (xs, self) ← self.reads rest
      return (x :: xs, self)

/-- Every load is inside the data, and what is read behind it is 0. -/
theorem loadCache_ok (self : BitInputStream) : self.loadCache = .ok self.readCache := by
  have loads : ∀ position, self.loadByte position = .ok (self.bytes.getD position 0) := by
    intro position
    unfold loadByte
    split
    case isTrue inside => exact load_getD inside
    case isFalse outside => rw [List.getD_eq_default _ _ (Nat.le_of_not_lt outside)]
  unfold loadCache readCache
  simp only [loads, ok_bind]
  exact List.foldlM_pure

/-- Peeking sees what reading would give. -/
theorem peek_of_read {self next : BitInputStream} {bitCount x : Nat} (reads : self.read bitCount = .ok (x, next)) :
    self.peek bitCount = .ok x := by
  unfold read at reads
  unfold peek
  obtain ⟨allowed, isAllowed, reads⟩ := bind_ok reads
  rw [isAllowed, ok_bind]
  split at reads
  case isTrue enough =>
      cases reads
      rw [if_pos enough]
      rfl
  case isFalse notEnough =>
      cases reads
      rw [if_neg notEnough]
      rfl

theorem reads_spec {self : BitInputStream} {position : Nat} (at_ : At self position) {widths : List Nat}
    (small : ∀ n ∈ widths, n ≤ 32) :
    ∃ xs next, self.reads widths = .ok (xs, next) ∧ At next (position + widths.sum) ∧ next.bytes = self.bytes := by
  induction widths generalizing self position with
  | nil => exact ⟨[], self, rfl, at_, rfl⟩
  | cons n widths ih =>
      obtain ⟨next, reads, moved, same⟩ := read_spec at_ (small n List.mem_cons_self)
      obtain ⟨xs, last, reads', moved', same'⟩ := ih moved (fun m member => small m (List.mem_cons_of_mem _ member))
      rw [List.sum_cons, ← Nat.add_assoc]
      exact ⟨_, last, by rw [BitInputStream.reads, reads, ok_bind]; dsimp only; rw [reads']; rfl, moved', same'.trans same⟩

end BitInputStream

/-! ## Fields -/

/-- A value and the number of bits it is written in. -/
structure BitField where
  value : Nat
  width : Nat
  deriving Repr, DecidableEq

namespace BitField

/-- What is read of a field. -/
def low (field : BitField) : Nat := field.value % 2 ^ field.width

def bitsOf (fields : List BitField) : List Bool := fields.flatMap fun field => bits field.width field.value

def widthOf (fields : List BitField) : Nat := (fields.map width).sum

@[simp] theorem bitsOf_cons (field : BitField) (fields : List BitField) :
    bitsOf (field :: fields) = bits field.width field.value ++ bitsOf fields := rfl

@[simp] theorem widthOf_cons (field : BitField) (fields : List BitField) :
    widthOf (field :: fields) = field.width + widthOf fields := by
  simp [widthOf]

theorem length_bitsOf (fields : List BitField) : (bitsOf fields).length = widthOf fields := by
  induction fields with
  | nil => rfl
  | cons field fields ih => rw [bitsOf_cons, List.length_append, length_bits, ih, widthOf_cons]

end BitField

open BitField

/-- Fields that the bytes have at the position of the stream are read back. -/
theorem BitInputStream.reads_fields {self : BitInputStream} {position : Nat} (at_ : At self position)
    {fields : List BitField} (small : ∀ field ∈ fields, field.width ≤ 32)
    (starts : Starts self.bytes position (bitsOf fields)) :
    ∃ next, self.reads (fields.map width) = .ok (fields.map low, next) ∧ At next (position + widthOf fields) := by
  induction fields generalizing self position with
  | nil => exact ⟨self, rfl, at_⟩
  | cons field fields ih =>
      obtain ⟨next, reads, moved, starts', same⟩ := read_field at_ (small field List.mem_cons_self) starts
      obtain ⟨last, reads', moved'⟩ := ih moved (fun f member => small f (List.mem_cons_of_mem _ member)) starts'
      rw [widthOf_cons, ← Nat.add_assoc]
      refine ⟨last, ?_, moved'⟩
      rw [List.map_cons, BitInputStream.reads, reads, ok_bind]
      dsimp only
      rw [reads']
      rfl

namespace BitOutputStream

/-- Write fields one after the other. -/
def writes (self : BitOutputStream) : List BitField → Access BitOutputStream
  | [] => return self
  | field :: rest => do
      let self ← self.write field.value field.width
      self.writes rest

/-- A word that is put leaves the bytes before it as they are. -/
theorem putWord_take (self : BitOutputStream) (word : Nat) (inside : self.bytePosition ≤ self.bytes.length) :
    (self.putWord word).bytes.take self.bytePosition = self.bytes.take self.bytePosition := by
  have kept := foldl_putByte_take [UInt8.ofNat (word >>> 24), UInt8.ofNat (word >>> 16), UInt8.ofNat (word >>> 8),
    UInt8.ofNat word] self 0 (Nat.zero_le _) inside
  rwa [Nat.add_zero, List.take_zero, List.append_nil] at kept

/-- What one write does to the fields of the stream. -/
theorem write_moves {self next : BitOutputStream} {x n : Nat} (writes : self.write x n = .ok next)
    (inside : self.bytePosition ≤ self.bytes.length) :
    next.bitsCached = (if self.bitsCached + n ≤ 32 then self.bitsCached + n else n - (32 - self.bitsCached)) ∧
      self.bytePosition ≤ next.bytePosition ∧
        next.bytes.take self.bytePosition = self.bytes.take self.bytePosition := by
  unfold write at writes
  obtain ⟨allowed, -, writes⟩ := bind_ok writes
  split at writes
  case isTrue room =>
      cases writes
      rw [if_pos room]
      exact ⟨rfl, le_rfl, rfl⟩
  case isFalse full =>
      cases writes
      rw [if_neg full]
      refine ⟨rfl, ?_, putWord_take self _ inside⟩
      rw [putWord_position]
      omega

theorem writes_spec {self : BitOutputStream} {l : List Bool} (written : Written self l) {fields : List BitField}
    (small : ∀ field ∈ fields, field.width ≤ 32) (fits : l.length + widthOf fields ≤ 8 * self.bytes.length) :
    ∃ next, self.writes fields = .ok next ∧ Written next (l ++ bitsOf fields) ∧
      next.bytes.length = self.bytes.length ∧
        next.bytes.take self.bytePosition = self.bytes.take self.bytePosition := by
  induction fields generalizing self l with
  | nil => exact ⟨self, rfl, by rwa [bitsOf, List.flatMap_nil, List.append_nil], rfl, rfl⟩
  | cons field fields ih =>
      rw [widthOf_cons] at fits
      obtain ⟨middle, writes, written', sized⟩ :=
        write_spec written field.value (small field List.mem_cons_self) (by omega)
      obtain ⟨-, forward, kept⟩ := write_moves writes written.inside
      obtain ⟨next, writes', written'', sized', kept'⟩ :=
        ih written' (fun f member => small f (List.mem_cons_of_mem _ member))
          (by rw [List.length_append, length_bits, sized]; omega)
      have keptFirst := congrArg (List.take self.bytePosition) kept'
      rw [List.take_take, List.take_take, Nat.min_eq_left forward, kept] at keptFirst
      refine ⟨next, ?_, ?_, sized'.trans sized, keptFirst⟩
      · rw [BitOutputStream.writes, writes, ok_bind, writes']
      · rwa [bitsOf_cons, ← List.append_assoc]

end BitOutputStream

/-- Fields that are written into a buffer with room for them and flushed are read back, and a read
    gives the next bits of any data, which are zeros behind its end. No load is outside the data,
    and peeking is reading without going on. -/
theorem fields_round_trip :
    (∀ (fields : List BitField) (buffer : List UInt8), (∀ field ∈ fields, field.width ≤ 32) →
      widthOf fields ≤ 8 * buffer.length →
        ∃ written flushed last, (BitOutputStream.init buffer).writes fields = .ok written ∧
          written.getPosition = widthOf fields ∧ written.flush = .ok flushed ∧
            (BitInputStream.init flushed.bytes).reads (fields.map width) = .ok (fields.map low, last) ∧
              last.getPosition = widthOf fields) ∧
    (∀ (data : List UInt8) (widths : List Nat), (∀ n ∈ widths, n ≤ 32) →
      ∃ xs stream, (BitInputStream.init data).reads widths = .ok (xs, stream) ∧ stream.getPosition = widths.sum ∧
        stream.bytes = data ∧ stream.loadCache = .ok stream.readCache ∧
          ∀ n ≤ 32, ∃ x next, stream.read n = .ok (x, next) ∧ stream.peek n = .ok x ∧
            next.getPosition = widths.sum + n ∧ x = value (bitsFrom data widths.sum n) ∧
              (8 * data.length ≤ widths.sum → x = 0)) := by
  constructor
  · intro fields buffer small fits
    obtain ⟨written, writes, isWritten, sized, -⟩ :=
      BitOutputStream.writes_spec (BitOutputStream.written_init buffer) small (by rw [List.length_nil, Nat.zero_add]; exact fits)
    rw [List.nil_append] at isWritten
    have length := length_bitsOf fields
    have room : (bitsOf fields).length ≤ 8 * written.bytes.length := by rw [length, sized]; exact fits
    obtain ⟨flushed, flushes, content, -⟩ := BitOutputStream.flush_spec isWritten room
    have starts := starts_of_bytes content []
    rw [List.append_nil] at starts
    obtain ⟨last, reads, at_⟩ := BitInputStream.reads_fields (BitInputStream.at_init flushed.bytes) small starts
    refine ⟨written, flushed, last, writes, ?_, flushes, reads, ?_⟩
    · rw [isWritten.position, length]
    · rw [at_.position, Nat.zero_add]
  · intro data widths small
    obtain ⟨xs, stream, reads, at_, same⟩ := BitInputStream.reads_spec (BitInputStream.at_init data) small
    rw [Nat.zero_add] at at_
    have isData : stream.bytes = data := same
    refine ⟨xs, stream, reads, at_.position, isData, stream.loadCache_ok, ?_⟩
    intro n few
    obtain ⟨next, reads', moved, -⟩ := BitInputStream.read_spec at_ few
    rw [isData] at reads'
    exact ⟨_, next, reads', BitInputStream.peek_of_read reads', moved.position, rfl,
      fun past => value_bitsFrom_past past n⟩

theorem fields_round_trip_straddling :
    ∃ written flushed last, (BitOutputStream.init (List.replicate 12 0)).writes [⟨5, 3⟩, ⟨0xFFFFFFFF, 32⟩] = .ok written ∧
      written.getPosition = 35 ∧ written.flush = .ok flushed ∧
        (BitInputStream.init flushed.bytes).reads [3, 32] = .ok ([5, 0xFFFFFFFF], last) ∧ last.getPosition = 35 :=
  fields_round_trip.1 [⟨5, 3⟩, ⟨0xFFFFFFFF, 32⟩] (List.replicate 12 0) (by decide) (by decide)

/-! ## Flushing -/

theorem length_padded (l : List Bool) : (padded l).length = roundUp l.length := by
  have up : l.length ≤ roundUp l.length := by unfold roundUp; omega
  rw [padded, List.length_append, List.length_replicate]
  omega

namespace BitOutputStream

/-- What a flush should do after the bits `l`: the position is that of the next whole byte, the
    bits and zeros are before it, another flush changes nothing, and what is written later comes
    behind and leaves them as they are. -/
def FlushesWell (stream : BitOutputStream) (l : List Bool) : Prop :=
  ∃ next, stream.flush = .ok next ∧ next.getPosition = roundUp l.length ∧
    bytesBits (next.bytes.take (roundUp l.length / 8)) = padded l ∧ next.flush = .ok next ∧
      ∀ fields : List BitField, (∀ field ∈ fields, field.width ≤ 32) →
        roundUp l.length + widthOf fields ≤ 8 * next.bytes.length →
          ∃ last, next.writes fields = .ok last ∧ Written last (padded l ++ bitsOf fields) ∧
            last.getPosition = roundUp l.length + widthOf fields ∧
              last.bytes.take (roundUp l.length / 8) = next.bytes.take (roundUp l.length / 8)

/-- With no more than a byte in the cache, the bits and their padding are what is written. -/
theorem flush_written {self : BitOutputStream} {l : List Bool} (written : Written self l)
    (fits : roundUp l.length ≤ 8 * self.bytes.length) (few : self.bitsCached ≤ 8) :
    ∃ next, self.flush = .ok next ∧ next.bitsCached = 0 ∧ next.bytes.length = self.bytes.length ∧
      next.bytePosition = roundUp l.length / 8 ∧ Written next (padded l) := by
  have before : l.length = 8 * self.bytePosition + self.bitsCached := written.position.symm
  obtain ⟨next, flushes, none, small, moved, sized, content⟩ := flush_moves written fits
  have whole : next.bytePosition = roundUp l.length / 8 := by
    rw [moved]
    unfold roundUp
    split <;> omega
  have isWritten : Written next (padded l) :=
    { cached := by omega
      small := by rw [none]; exact small
      inside := by omega
      content := by rw [none, whole, content, bits, List.append_nil] }
  exact ⟨next, flushes, none, sized, whole, isWritten⟩

/-- A flush does what it should when it finds no more than a byte in the cache, and only then. -/
theorem flushesWell_iff {self : BitOutputStream} {l : List Bool} (written : Written self l)
    (fits : roundUp l.length ≤ 8 * self.bytes.length) : FlushesWell self l ↔ self.bitsCached ≤ 8 := by
  have before : l.length = 8 * self.bytePosition + self.bitsCached := written.position.symm
  constructor
  · rintro ⟨next, flushes, position, -⟩
    obtain ⟨next', flushes', none, -, moved, -⟩ := flush_moves written fits
    obtain rfl : next' = next := Except.ok.inj (flushes'.symm.trans flushes)
    unfold getPosition roundUp at position
    rw [none, moved] at position
    split at position <;> omega
  · intro few
    obtain ⟨next, flushes, none, sized, whole, written'⟩ := flush_written written fits few
    have length := length_padded l
    have content := written'.content
    rw [none, whole, bits, List.append_nil] at content
    have again : next.flush = .ok next := by simp [flush, none]
    refine ⟨next, flushes, ?_, content.symm, again, ?_⟩
    · rw [written'.position, length]
    · intro fields small room
      obtain ⟨last, writes, isWritten, -, kept⟩ := writes_spec written' small (by rw [length]; exact room)
      rw [whole] at kept
      have position := isWritten.position
      rw [List.length_append, length, length_bitsOf] at position
      exact ⟨last, writes, isWritten, position, kept⟩

end BitOutputStream

/-! ## Calls of a writer -/

inductive BitCall where
  | write (field : BitField)
  | flush
  deriving Repr, DecidableEq

def BitOutputStream.call (self : BitOutputStream) : BitCall → Access BitOutputStream
  | .write field => self.write field.value field.width
  | .flush => self.flush

def BitOutputStream.calls (self : BitOutputStream) : List BitCall → Access BitOutputStream
  | [] => return self
  | call :: rest => do
      let self ← self.call call
      self.calls rest

/-- What was written, with the padding of flushes, and the number of bits since the last flush. -/
structure BitLog where
  written : List Bool
  sinceFlush : Nat
  deriving Repr, DecidableEq

namespace BitLog

def empty : BitLog := ⟨[], 0⟩

def call (log : BitLog) : BitCall → BitLog
  | .write field => ⟨log.written ++ bits field.width field.value, log.sinceFlush + field.width⟩
  | .flush => ⟨padded log.written, 0⟩

def calls (log : BitLog) (calls : List BitCall) : BitLog := calls.foldl call log

/-- The last word since the flush before has bits for no more than one byte. -/
def Short (log : BitLog) : Prop := log.sinceFlush = 0 ∨ (log.sinceFlush - 1) % 32 < 8

/-- A width of at most a word; a flush of no more than one byte. -/
def Permits (log : BitLog) : BitCall → Prop
  | .write field => field.width ≤ 32
  | .flush => log.Short

def PermitsAll (log : BitLog) : List BitCall → Prop
  | [] => True
  | call :: rest => log.Permits call ∧ (log.call call).PermitsAll rest

theorem length_le_call (log : BitLog) (call : BitCall) : log.written.length ≤ (log.call call).written.length := by
  cases call with
  | write field => rw [BitLog.call, List.length_append]; omega
  | flush => rw [BitLog.call, padded, List.length_append]; omega

theorem length_le_calls (log : BitLog) (calls : List BitCall) :
    log.written.length ≤ (log.calls calls).written.length := by
  induction calls generalizing log with
  | nil => exact le_rfl
  | cons call rest ih => exact (log.length_le_call call).trans (ih (log.call call))

end BitLog

theorem roundUp_mono {m n : Nat} (few : m ≤ n) : roundUp m ≤ roundUp n := by
  unfold roundUp
  omega

/-- The stream after the calls of the log. -/
structure Tracks (stream : BitOutputStream) (log : BitLog) : Prop where
  written : BitOutputStream.Written stream log.written
  cached : stream.bitsCached = if log.sinceFlush = 0 then 0 else (log.sinceFlush - 1) % 32 + 1

namespace Tracks

variable {stream : BitOutputStream} {log : BitLog}

theorem empty (buffer : List UInt8) : Tracks (BitOutputStream.init buffer) BitLog.empty :=
  ⟨BitOutputStream.written_init buffer, rfl⟩

theorem short_iff (tracks : Tracks stream log) : stream.bitsCached ≤ 8 ↔ log.Short := by
  have cached := tracks.cached
  unfold BitLog.Short
  split at cached <;> omega

/-- One call. -/
theorem call (tracks : Tracks stream log) {call : BitCall} (permitted : log.Permits call)
    (fits : roundUp (log.call call).written.length ≤ 8 * stream.bytes.length) :
    ∃ next, stream.call call = .ok next ∧ Tracks next (log.call call) ∧
      next.bytes.length = stream.bytes.length := by
  cases call with
  | write field =>
      have cached := tracks.cached
      have small : field.width ≤ 32 := permitted
      have room : log.written.length + field.width ≤ 8 * stream.bytes.length := by
        unfold roundUp at fits
        rw [BitLog.call, List.length_append, length_bits] at fits
        omega
      obtain ⟨next, writes, written, sized⟩ := BitOutputStream.write_spec tracks.written field.value small room
      obtain ⟨moved, -⟩ := BitOutputStream.write_moves writes tracks.written.inside
      refine ⟨next, writes, ⟨written, ?_⟩, sized⟩
      rw [moved, BitLog.call]
      dsimp only
      split at cached <;> split <;> split <;> omega
  | flush =>
      have short : stream.bitsCached ≤ 8 := tracks.short_iff.mpr permitted
      rw [BitLog.call, length_padded] at fits
      have room : roundUp log.written.length ≤ 8 * stream.bytes.length := by
        unfold roundUp at fits ⊢
        omega
      obtain ⟨next, flushes, none, sized, -, written⟩ := BitOutputStream.flush_written tracks.written room short
      exact ⟨next, flushes, ⟨written, by rw [none]; rfl⟩, sized⟩

theorem calls (tracks : Tracks stream log) {calls : List BitCall} (permitted : log.PermitsAll calls)
    (fits : roundUp (log.calls calls).written.length ≤ 8 * stream.bytes.length) :
    ∃ last, stream.calls calls = .ok last ∧ Tracks last (log.calls calls) ∧
      last.bytes.length = stream.bytes.length := by
  induction calls generalizing stream log with
  | nil => exact ⟨stream, rfl, tracks, rfl⟩
  | cons call rest ih =>
      have grows := roundUp_mono ((log.call call).length_le_calls rest)
      obtain ⟨next, called, tracks', sized⟩ := tracks.call permitted.1 (grows.trans fits)
      obtain ⟨last, called', tracks'', sized'⟩ := ih tracks' permitted.2 (by rw [sized]; exact fits)
      exact ⟨last, by rw [BitOutputStream.calls, called, ok_bind, called'], tracks'', sized'.trans sized⟩

end Tracks

/-- After any writes and flushes that went well, with room in the buffer, the position is that of
    the bits and their padding, and a flush then goes well just when the last word since the
    flush before it has bits for no more than one byte: the cache is emptied by a write that
    leaves one bit in it, and it is by that bit that the position is then moved. -/
theorem flush_goes_well_iff {buffer : List UInt8} {calls : List BitCall} (permitted : BitLog.empty.PermitsAll calls)
    (fits : roundUp (BitLog.empty.calls calls).written.length ≤ 8 * buffer.length) :
    ∃ stream, (BitOutputStream.init buffer).calls calls = .ok stream ∧
      stream.getPosition = (BitLog.empty.calls calls).written.length ∧
        (stream.FlushesWell (BitLog.empty.calls calls).written ↔ (BitLog.empty.calls calls).Short) := by
  obtain ⟨stream, called, tracks, sized⟩ := (Tracks.empty buffer).calls permitted fits
  refine ⟨stream, called, tracks.written.position, ?_⟩
  rw [← tracks.short_iff]
  exact BitOutputStream.flushesWell_iff tracks.written (by rw [sized]; exact fits)

theorem flush_goes_well_after_byte :
    ∃ stream, (BitOutputStream.init [0, 0]).calls [.write ⟨0xAB, 8⟩] = .ok stream ∧ stream.getPosition = 8 ∧
      (stream.FlushesWell (BitLog.empty.calls [.write ⟨0xAB, 8⟩]).written ↔
        (BitLog.empty.calls [.write ⟨0xAB, 8⟩]).Short) :=
  @flush_goes_well_iff [0, 0] [.write ⟨0xAB, 8⟩] ⟨(by decide : (8 : Nat) ≤ 32), trivial⟩ (by decide)

/-- Nine bits are flushed into two bytes, and the position is then that of the second of them. -/
theorem flush_nine_bits :
    ¬ ∀ (buffer : List UInt8) (fields : List BitField), (∀ field ∈ fields, field.width ≤ 32) →
      roundUp (widthOf fields) ≤ 8 * buffer.length →
        ∃ written next, (BitOutputStream.init buffer).writes fields = .ok written ∧ written.flush = .ok next ∧
          next.getPosition = roundUp (widthOf fields) := by
  intro h
  obtain ⟨written, next, writes, flushes, position⟩ := h [0, 0, 0, 0] [⟨0x1AB, 9⟩] (by decide) (by decide)
  obtain rfl : (⟨[0, 0, 0, 0], 0, 0x1AB, 9⟩ : BitOutputStream) = written := Except.ok.inj writes
  obtain rfl : (⟨[0xD5, 0x80, 0, 0], 1, 0, 0⟩ : BitOutputStream) = next := Except.ok.inj flushes
  exact absurd position (by decide)

end GoldenGate
