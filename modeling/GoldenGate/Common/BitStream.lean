import GoldenGate.Lib.Bits
import GoldenGate.Lib.Memory

/-! # Bit streams

The embedding of `gg_bitstream.c`. Both streams keep up to 32 bits in a cache word
and touch their buffer a word at a time; a word that reaches past the end of the
buffer is cut off there. What a stream has written, or has still to read, is a list
of bits, and each operation is specified on that list.
-/

namespace GoldenGate

open Memory Bits

abbrev bitstreamWordBits : Nat := 32

/-- `GG_BITSTREAM_BIT_MASK`. -/
def bitMask (n : Nat) : Nat := if n ≠ 0 then 0xFFFFFFFF >>> (bitstreamWordBits - n) else 0

/-- `GG_BitOutputStream`; the byte size is the length of `bytes`. -/
structure BitOutputStream where
  bytes : List UInt8
  bytePosition : Nat
  cache : Nat
  bitsCached : Nat
  deriving Repr, DecidableEq

/-- `GG_BitInputStream`. -/
structure BitInputStream where
  bytes : List UInt8
  bytePosition : Nat
  cache : Nat
  bitsCached : Nat
  deriving Repr, DecidableEq

theorem bits_zero (n : Nat) : bits n 0 = List.replicate n false := by
  induction n with
  | zero => rfl
  | succ n ih => rw [bits, ih, Nat.zero_testBit, List.replicate_succ]

/-- A number of bits, rounded up to whole bytes. -/
def roundUp (n : Nat) : Nat := (n + 7) / 8 * 8

/-- Bits with zeros up to whole bytes. -/
def padded (l : List Bool) : List Bool := l ++ List.replicate (roundUp l.length - l.length) false

namespace BitOutputStream

def init (buffer : List UInt8) : BitOutputStream := ⟨buffer, 0, 0, 0⟩

def getPosition (self : BitOutputStream) : Nat := 8 * self.bytePosition + self.bitsCached

/-- One round of the loop that writes a word: not past the buffer. -/
def putByte (self : BitOutputStream) (b : UInt8) : BitOutputStream :=
  { self with
    bytes := if self.bytePosition < self.bytes.length then self.bytes.set self.bytePosition b
      else self.bytes
    bytePosition := self.bytePosition + 1 }

/-- The loop over the bytes of a word. -/
def putWord (self : BitOutputStream) (word : Nat) : BitOutputStream :=
  [UInt8.ofNat (word >>> 24), UInt8.ofNat (word >>> 16), UInt8.ofNat (word >>> 8),
    UInt8.ofNat word].foldl putByte self

/-- `GG_BitOutputStream_Write`. -/
def write (self : BitOutputStream) (bits bitCount : Nat) : Access BitOutputStream := do
  assert (bitCount ≤ bitstreamWordBits)
  let bits := bits &&& bitMask bitCount
  if self.bitsCached + bitCount ≤ bitstreamWordBits then
    return { self with
      cache :=
        (if bitCount = bitstreamWordBits then 0 else (self.cache <<< bitCount) % 2 ^ 32) ||| bits
      bitsCached := self.bitsCached + bitCount }
  else
    let partialBitCount := bitstreamWordBits - self.bitsCached
    let word :=
      if partialBitCount ≠ 0 then
        (self.cache <<< partialBitCount) % 2 ^ 32 ||| (bits >>> (bitCount - partialBitCount))
      else self.cache
    return { self.putWord word with
      cache := bits &&& bitMask (bitCount - partialBitCount)
      bitsCached := bitCount - partialBitCount }

/-- `GG_BitOutputStream_Flush`: zeros push the cache out. -/
def flush (self : BitOutputStream) : Access BitOutputStream := do
  if self.bitsCached ≠ 0 then
    let position := self.bytePosition
    let flushed ← self.write 0 (1 + bitstreamWordBits - self.bitsCached)
    return { flushed with
      bytePosition := min flushed.bytes.length (position + (flushed.bitsCached + 7) / 8)
      bitsCached := 0 }
  else return self

end BitOutputStream

namespace BitInputStream

def init (data : List UInt8) : BitInputStream := ⟨data, 0, 0, 0⟩

def getPosition (self : BitInputStream) : Nat := 8 * self.bytePosition - self.bitsCached

/-- `GG_BitInputStream_ReadCache`: the next word, with zeros for bytes past the end. -/
def readCache (self : BitInputStream) : Nat :=
  (List.range 4).foldl
    (fun result i => (result <<< 8) ||| (self.bytes.getD (self.bytePosition + i) 0).toNat) 0

/-- `GG_BitInputStream_Read`. -/
def read (self : BitInputStream) (bitCount : Nat) : Access (Nat × BitInputStream) := do
  assert (bitCount ≤ bitstreamWordBits)
  if self.bitsCached ≥ bitCount then
    let bitsCached := self.bitsCached - bitCount
    return ((self.cache >>> bitsCached) &&& bitMask bitCount,
      { self with bitsCached := bitsCached })
  else
    let word := self.readCache
    let cache := self.cache &&& bitMask self.bitsCached
    let bitCount := bitCount - self.bitsCached
    let bitsCached := bitstreamWordBits - bitCount
    let result := (word >>> bitsCached) |||
      (if bitCount = bitstreamWordBits then 0 else (cache <<< bitCount) % 2 ^ 32)
    return (result,
      { self with bytePosition := self.bytePosition + 4, cache := word, bitsCached := bitsCached })

end BitInputStream

theorem and_bitMask (x : Nat) {n : Nat} (small : n ≤ 32) : x &&& bitMask n = x % 2 ^ n := by
  unfold bitMask bitstreamWordBits
  split
  · rw [← Nat.and_two_pow_sub_one_eq_mod]
    have every : ∀ n ≤ 32, 0xFFFFFFFF >>> (32 - n) = 2 ^ n - 1 := by decide
    rw [every n small]
  · next zero =>
      obtain rfl : n = 0 := by omega
      simp [Nat.mod_one]

/-! ## Writing -/

namespace BitOutputStream

theorem foldl_putByte_position (bs : List UInt8) (self : BitOutputStream) :
    (bs.foldl putByte self).bytePosition = self.bytePosition + bs.length ∧
      (bs.foldl putByte self).bytes.length = self.bytes.length := by
  induction bs generalizing self with
  | nil => simp
  | cons b bs ih =>
      obtain ⟨position, length⟩ := ih (self.putByte b)
      simp only [List.foldl_cons, position, length]
      unfold putByte
      constructor
      · simp only [List.length_cons]
        omega
      · split <;> simp

theorem foldl_putByte_full (bs : List UInt8) (self : BitOutputStream)
    (full : self.bytes.length ≤ self.bytePosition) :
    (bs.foldl putByte self).bytes = self.bytes := by
  induction bs generalizing self with
  | nil => rfl
  | cons b bs ih =>
      have cut : ¬ self.bytePosition < self.bytes.length := by omega
      have same : (self.putByte b).bytes = self.bytes := by simp [putByte, cut]
      rw [List.foldl_cons, ih, same]
      rw [same]
      simp only [putByte]
      omega

/-- The bytes that fit follow those already written. -/
theorem foldl_putByte_take (bs : List UInt8) (self : BitOutputStream) (k : Nat)
    (few : k ≤ bs.length) (fits : self.bytePosition + k ≤ self.bytes.length) :
    (bs.foldl putByte self).bytes.take (self.bytePosition + k) =
      self.bytes.take self.bytePosition ++ bs.take k := by
  induction bs generalizing self k with
  | nil =>
      obtain rfl : k = 0 := by simpa using few
      simp
  | cons b bs ih =>
      by_cases room : self.bytePosition < self.bytes.length
      · have bytes : (self.putByte b).bytes = self.bytes.set self.bytePosition b := by
          simp [putByte, room]
        have next : (self.putByte b).bytePosition = self.bytePosition + 1 := rfl
        have front : (self.putByte b).bytes.take (self.bytePosition + 1) =
            self.bytes.take self.bytePosition ++ [b] := by
          rw [bytes, List.take_add_one, List.take_set_of_le (le_refl _)]
          simp [room]
        cases k with
        | zero =>
            have kept := ih (self.putByte b) 0 (Nat.zero_le _) (by rw [bytes, next, List.length_set]; omega)
            rw [next, Nat.add_zero, front, List.take_zero, List.append_nil] at kept
            have shorter := congrArg (List.take self.bytePosition) kept
            rw [List.take_take, Nat.min_eq_left (Nat.le_succ _)] at shorter
            rw [List.foldl_cons, Nat.add_zero, shorter]
            simp [room.le]
        | succ k =>
            have kept := ih (self.putByte b) k (by simpa using few)
              (by rw [bytes, next, List.length_set]; omega)
            rw [next, front] at kept
            rw [List.foldl_cons, show self.bytePosition + (k + 1) = self.bytePosition + 1 + k by omega,
              kept]
            simp
      · obtain rfl : k = 0 := by omega
        rw [foldl_putByte_full _ _ (by omega)]
        simp

/-- The bits written so far: whole words in the buffer, then the cache. -/
structure Written (stream : BitOutputStream) (l : List Bool) : Prop where
  cached : stream.bitsCached ≤ 32
  small : stream.cache < 2 ^ stream.bitsCached
  inside : stream.bytePosition ≤ stream.bytes.length
  content : l = bytesBits (stream.bytes.take stream.bytePosition) ++ bits stream.bitsCached stream.cache

theorem written_init (buffer : List UInt8) : Written (init buffer) [] :=
  ⟨by simp [init], by simp [init], by simp [init], by simp [init, bytesBits, bits]⟩

theorem Written.position {self : BitOutputStream} {l : List Bool} (written : Written self l) :
    self.getPosition = l.length := by
  rw [written.content, getPosition, List.length_append, length_bytesBits, length_bits,
    List.length_take, Nat.min_eq_left written.inside]

/-- A word goes behind the bits in the buffer, as far as the buffer reaches. -/
theorem putWord_bits (self : BitOutputStream) (word k : Nat) (few : k ≤ 4)
    (fits : self.bytePosition + k ≤ self.bytes.length) :
    bytesBits ((self.putWord word).bytes.take (self.bytePosition + k)) =
      bytesBits (self.bytes.take self.bytePosition) ++ (bits 32 word).take (8 * k) := by
  have taken := foldl_putByte_take [UInt8.ofNat (word >>> 24), UInt8.ofNat (word >>> 16),
    UInt8.ofNat (word >>> 8), UInt8.ofNat word] self k few fits
  rw [putWord, taken, bytesBits_append, bits_word]
  congr 1
  rcases (by omega : k = 0 ∨ k = 1 ∨ k = 2 ∨ k = 3 ∨ k = 4) with rfl | rfl | rfl | rfl | rfl <;>
    simp [bytesBits, bits]

@[simp] theorem putWord_position (self : BitOutputStream) (word : Nat) :
    (self.putWord word).bytePosition = self.bytePosition + 4 :=
  (foldl_putByte_position _ _).1

@[simp] theorem putWord_length (self : BitOutputStream) (word : Nat) :
    (self.putWord word).bytes.length = self.bytes.length :=
  (foldl_putByte_position _ _).2

/-- The word that a write pushes out: what was cached, then the upper bits written. -/
theorem pushed_word {cache c : Nat} (x : Nat) (cached : c ≤ 32) (small : cache < 2 ^ c)
    (fits : x < 2 ^ (32 - c)) :
    bits 32 (if 32 - c ≠ 0 then (cache <<< (32 - c)) % 2 ^ 32 ||| x else cache) =
      bits c cache ++ bits (32 - c) x := by
  by_cases full : c = 32
  · subst full
    simp [bits]
  · have shifted : (cache <<< (32 - c)) % 2 ^ 32 = cache <<< (32 - c) := by
      refine Nat.mod_eq_of_lt ?_
      rw [Nat.shiftLeft_eq]
      calc cache * 2 ^ (32 - c) < 2 ^ c * 2 ^ (32 - c) :=
            Nat.mul_lt_mul_of_pos_right small (Nat.two_pow_pos _)
        _ = 2 ^ 32 := by rw [← Nat.pow_add, Nat.add_sub_cancel' cached]
    have open_ : 32 - c ≠ 0 := by omega
    rw [if_pos open_, shifted]
    conv_lhs => rw [show 32 = c + (32 - c) by omega]
    rw [show c + (32 - c) - c = 32 - c by omega]
    exact bits_shiftLeft_or c (32 - c) cache x fits

/-- Writing appends the low bits of the value. -/
theorem write_spec {self : BitOutputStream} {l : List Bool} (written : Written self l)
    (x : Nat) {n : Nat} (small : n ≤ 32) (fits : l.length + n ≤ 8 * self.bytes.length) :
    ∃ next, self.write x n = .ok next ∧ Written next (l ++ bits n x) ∧
      next.bytes.length = self.bytes.length := by
  have cached := written.cached
  have allowed : assert (decide (n ≤ bitstreamWordBits)) = .ok () := by
    simp [assert, bitstreamWordBits, small]
  have masked : x &&& bitMask n = x % 2 ^ n := and_bitMask x small
  have low : x % 2 ^ n < 2 ^ n := Nat.mod_lt _ (Nat.two_pow_pos n)
  unfold write
  rw [allowed, ok_bind]
  simp only [masked, bitstreamWordBits, pure_ok]
  by_cases room : self.bitsCached + n ≤ 32
  · -- the bits stay in the cache
    rw [if_pos room]
    have cache : (if n = 32 then 0 else (self.cache <<< n) % 2 ^ 32) ||| (x % 2 ^ n) =
        (self.cache <<< n) ||| (x % 2 ^ n) := by
      by_cases whole : n = 32
      · have none : self.bitsCached = 0 := by omega
        have zero : self.cache = 0 := by simpa [none] using written.small
        simp [whole, zero]
      · have bound : self.cache <<< n < 2 ^ 32 := by
          rw [Nat.shiftLeft_eq]
          calc self.cache * 2 ^ n < 2 ^ self.bitsCached * 2 ^ n :=
                Nat.mul_lt_mul_of_pos_right written.small (Nat.two_pow_pos n)
            _ = 2 ^ (self.bitsCached + n) := (Nat.pow_add _ _ _).symm
            _ ≤ 2 ^ 32 := Nat.pow_le_pow_right (by decide) room
        rw [if_neg whole, Nat.mod_eq_of_lt bound]
    rw [cache]
    refine ⟨_, rfl, ?_, rfl⟩
    exact
      { cached := room
        small := by
          change (self.cache <<< n) ||| (x % 2 ^ n) < 2 ^ (self.bitsCached + n)
          refine Nat.or_lt_two_pow ?_ (low.trans_le (Nat.pow_le_pow_right (by decide) (by omega)))
          rw [Nat.shiftLeft_eq, Nat.pow_add]
          exact Nat.mul_lt_mul_of_pos_right written.small (Nat.two_pow_pos n)
        inside := written.inside
        content := by
          change l ++ bits n x = _ ++ bits (self.bitsCached + n) ((self.cache <<< n) ||| (x % 2 ^ n))
          rw [bits_shiftLeft_or _ _ _ _ low, ← List.append_assoc, ← written.content,
            bits_mod x le_rfl] }
  · -- a word is full
    rw [if_neg room]
    refine ⟨_, rfl, ?_, by simp⟩
    have split : bits n x = bits (32 - self.bitsCached) ((x % 2 ^ n) >>> (n - (32 - self.bitsCached))) ++
        bits (n - (32 - self.bitsCached)) (x % 2 ^ n) := by
      rw [← bits_add, Nat.add_sub_cancel' (by omega), bits_mod x le_rfl]
    have upper : (x % 2 ^ n) >>> (n - (32 - self.bitsCached)) < 2 ^ (32 - self.bitsCached) := by
      rw [Nat.shiftRight_eq_div_pow, Nat.div_lt_iff_lt_mul (Nat.two_pow_pos _), ← Nat.pow_add,
        Nat.add_sub_cancel' (by omega)]
      exact low
    have before : l.length = 8 * self.bytePosition + self.bitsCached := written.position.symm
    have inside : self.bytePosition + 4 ≤ self.bytes.length := by omega
    have word := pushed_word _ cached written.small upper
    have pushed := putWord_bits self
      (if 32 - self.bitsCached ≠ 0 then (self.cache <<< (32 - self.bitsCached)) % 2 ^ 32 |||
        ((x % 2 ^ n) >>> (n - (32 - self.bitsCached))) else self.cache) 4 le_rfl inside
    have whole : ∀ w, (bits 32 w).take (8 * 4) = bits 32 w :=
      fun w => List.take_of_length_le (by rw [length_bits])
    rw [whole, word] at pushed
    exact
      { cached := by simp only; omega
        small := by
          simp only
          rw [and_bitMask _ (by omega)]
          exact Nat.mod_lt _ (Nat.two_pow_pos _)
        inside := by simpa using inside
        content := by
          simp only [putWord_position]
          rw [pushed, and_bitMask _ (by omega), bits_mod _ le_rfl, split, written.content]
          simp only [List.append_assoc] }

/-- What a flush does: it empties the cache into the buffer, and goes on by one byte. -/
theorem flush_moves {self : BitOutputStream} {l : List Bool} (written : Written self l)
    (fits : roundUp l.length ≤ 8 * self.bytes.length) :
    ∃ next, self.flush = .ok next ∧ next.bitsCached = 0 ∧ next.cache < 2 ^ 0 ∧
      next.bytePosition = self.bytePosition + (if self.bitsCached = 0 then 0 else 1) ∧
        next.bytes.length = self.bytes.length ∧ bytesBits (next.bytes.take (roundUp l.length / 8)) = padded l := by
  have before : l.length = 8 * self.bytePosition + self.bitsCached := written.position.symm
  have cached := written.cached
  unfold roundUp at fits
  by_cases none : self.bitsCached = 0
  · have small := written.small
    have whole : roundUp l.length / 8 = self.bytePosition := by unfold roundUp; omega
    have noPadding : roundUp l.length - l.length = 0 := by unfold roundUp; omega
    have content := written.content
    rw [none] at small
    rw [none, bits, List.append_nil] at content
    refine ⟨self, by simp [flush, none], none, small, by rw [if_pos none]; rfl, rfl, ?_⟩
    rw [whole, padded, noPadding, List.replicate_zero, List.append_nil, content]
  · have allowed : assert (decide (1 + 32 - self.bitsCached ≤ 32)) = .ok () := by
      simp only [assert, decide_eq_true_eq, ite_eq_left_iff]
      omega
    have full : ¬ self.bitsCached + (1 + 32 - self.bitsCached) ≤ 32 := by omega
    have word := pushed_word 0 cached written.small (Nat.two_pow_pos _)
    obtain ⟨k, count⟩ : ∃ k, k = (self.bitsCached + 7) / 8 := ⟨_, rfl⟩
    have pushed := putWord_bits self
      (if 32 - self.bitsCached ≠ 0 then (self.cache <<< (32 - self.bitsCached)) % 2 ^ 32 ||| 0
        else self.cache) k (by omega) (by omega)
    have covered : (bits self.bitsCached self.cache).take (8 * k) = bits self.bitsCached self.cache :=
      List.take_of_length_le (by rw [length_bits]; omega)
    have whole : roundUp l.length / 8 = self.bytePosition + k := by unfold roundUp; omega
    have padding : roundUp l.length - l.length = min (8 * k - self.bitsCached) (32 - self.bitsCached) := by
      unfold roundUp
      omega
    have left : 1 + 32 - self.bitsCached - (32 - self.bitsCached) = 1 := by omega
    rw [word, List.take_append, covered, ← List.append_assoc, ← written.content, length_bits, bits_zero,
      List.take_replicate] at pushed
    simp only [flush, write, bitstreamWordBits, none, ne_eq, not_false_eq_true, if_true, allowed,
      ok_bind, full, if_false, Nat.zero_and, Nat.zero_shiftRight, pure_ok, left, putWord_length]
    refine ⟨_, rfl, rfl, Nat.one_pos, ?_, putWord_length _ _, ?_⟩
    · exact Nat.min_eq_right (by omega)
    · rw [whole, padded, padding]
      exact pushed

/-- After a flush the buffer starts with the bits written. -/
theorem flush_spec {self : BitOutputStream} {l : List Bool} (written : Written self l)
    (fits : l.length ≤ 8 * self.bytes.length) :
    ∃ next, self.flush = .ok next ∧ l <+: bytesBits next.bytes ∧
      next.bytes.length = self.bytes.length := by
  obtain ⟨next, flushes, -, -, -, sized, content⟩ := flush_moves written (by unfold roundUp; omega)
  have front : l <+: bytesBits (next.bytes.take (roundUp l.length / 8)) := ⟨_, content.symm⟩
  exact ⟨next, flushes, front.trans (bytesBits_take _ _), sized⟩

end BitOutputStream

/-! ## Reading -/

namespace BitInputStream

/-- The stream stands at a bit position: the cache has the bits up to the next word. -/
structure At (stream : BitInputStream) (position : Nat) : Prop where
  cached : stream.bitsCached ≤ 32
  place : position + stream.bitsCached = 8 * stream.bytePosition
  content : bits stream.bitsCached stream.cache = bitsFrom stream.bytes position stream.bitsCached

theorem at_init (data : List UInt8) : At (init data) 0 :=
  ⟨by simp [init], by simp [init], rfl⟩

theorem At.position {self : BitInputStream} {position : Nat} (at_ : At self position) :
    self.getPosition = position := by
  have place := at_.place
  simp only [getPosition]
  omega

/-- The word read next is the next 32 bits. -/
theorem readCache_bits (self : BitInputStream) :
    bits 32 self.readCache = bitsFrom self.bytes (8 * self.bytePosition) 32 ∧
      self.readCache < 2 ^ 32 := by
  let byte (i : Nat) := (self.bytes.getD (self.bytePosition + i) 0).toNat
  have small : ∀ i, byte i < 2 ^ 8 := fun i => UInt8.toNat_lt _
  have word : self.readCache =
      (((((0 <<< 8) ||| byte 0) <<< 8 ||| byte 1) <<< 8 ||| byte 2) <<< 8) ||| byte 3 := rfl
  have bytes : bitsFrom self.bytes (8 * self.bytePosition) 32 =
      bits 8 (byte 0) ++ bits 8 (byte 1) ++ bits 8 (byte 2) ++ bits 8 (byte 3) := by
    rw [bitsFrom_add _ _ 24 8, bitsFrom_add _ _ 16 8, bitsFrom_add _ _ 8 8,
      show 8 * self.bytePosition + 24 = 8 * (self.bytePosition + 3) by omega,
      show 8 * self.bytePosition + 16 = 8 * (self.bytePosition + 2) by omega,
      show 8 * self.bytePosition + 8 = 8 * (self.bytePosition + 1) by omega,
      bitsFrom_byte, bitsFrom_byte, bitsFrom_byte, bitsFrom_byte]
    rfl
  constructor
  · rw [word, bytes, bits_shiftLeft_or 24 8 _ _ (small 3), bits_shiftLeft_or 16 8 _ _ (small 2),
      bits_shiftLeft_or 8 8 _ _ (small 1), Nat.zero_shiftLeft, Nat.zero_or]
  · rw [word]
    have push : ∀ v n i, v < 2 ^ n → (v <<< 8) ||| byte i < 2 ^ (n + 8) := by
      intro v n i bound
      rw [Nat.shiftLeft_eq, Nat.mul_comm, ← Nat.two_pow_add_eq_or_of_lt (small i), Nat.pow_add]
      have := small i
      calc 2 ^ 8 * v + byte i < 2 ^ 8 * (v + 1) := by omega
        _ ≤ 2 ^ 8 * 2 ^ n := Nat.mul_le_mul_left _ bound
        _ = 2 ^ n * 2 ^ 8 := Nat.mul_comm _ _
    exact push _ 24 3 (push _ 16 2 (push _ 8 1 (push 0 0 0 (by decide))))

/-- Reading gives the number in the next bits. -/
theorem read_spec {self : BitInputStream} {position : Nat} (at_ : At self position) {n : Nat}
    (small : n ≤ 32) :
    ∃ next, self.read n = .ok (value (bitsFrom self.bytes position n), next) ∧
      At next (position + n) ∧ next.bytes = self.bytes := by
  have cached := at_.cached
  have place := at_.place
  have allowed : assert (decide (n ≤ bitstreamWordBits)) = .ok () := by simp [assert, small]
  unfold read
  rw [allowed, ok_bind]
  simp only [bitstreamWordBits, pure_ok, ge_iff_le]
  by_cases enough : n ≤ self.bitsCached
  · -- the cache has them all
    rw [if_pos enough]
    have content := at_.content
    obtain ⟨rest, split⟩ : ∃ rest, self.bitsCached = n + rest := ⟨_, (Nat.add_sub_cancel' enough).symm⟩
    rw [split, bits_add, bitsFrom_add] at content
    obtain ⟨front, back⟩ := List.append_inj content (by simp)
    have remaining : self.bitsCached - n = rest := by omega
    rw [remaining, and_bitMask _ small]
    have stands : At { self with bitsCached := rest } (position + n) :=
      ⟨show rest ≤ 32 by omega, show position + n + rest = 8 * self.bytePosition by omega, back⟩
    exact ⟨_, by rw [← front, value_bits], stands, rfl⟩
  · -- a new word is needed
    rw [if_neg enough]
    obtain ⟨word, wordSmall⟩ := self.readCache_bits
    obtain ⟨more, split⟩ : ∃ more, n = self.bitsCached + more := ⟨n - self.bitsCached, by omega⟩
    have rest : n - self.bitsCached = more := by omega
    rw [rest, and_bitMask _ cached]
    have low : self.cache % 2 ^ self.bitsCached < 2 ^ self.bitsCached :=
      Nat.mod_lt _ (Nat.two_pow_pos _)
    rw [show 32 = more + (32 - more) by omega, bits_add, bitsFrom_add] at word
    obtain ⟨front, back⟩ := List.append_inj word (by simp)
    have upper : self.readCache >>> (32 - more) < 2 ^ more := by
      rw [Nat.shiftRight_eq_div_pow, Nat.div_lt_iff_lt_mul (Nat.two_pow_pos _), ← Nat.pow_add,
        Nat.add_sub_cancel' (by omega)]
      exact wordSmall
    have joined : (self.readCache >>> (32 - more)) |||
        (if more = 32 then 0 else ((self.cache % 2 ^ self.bitsCached) <<< more) % 2 ^ 32) =
        ((self.cache % 2 ^ self.bitsCached) <<< more) ||| (self.readCache >>> (32 - more)) := by
      rw [Nat.or_comm]
      congr 1
      by_cases whole : more = 32
      · have none : self.bitsCached = 0 := by omega
        simp [whole, none, Nat.mod_one]
      · rw [if_neg whole, Nat.mod_eq_of_lt]
        rw [Nat.shiftLeft_eq]
        calc self.cache % 2 ^ self.bitsCached * 2 ^ more < 2 ^ self.bitsCached * 2 ^ more :=
              Nat.mul_lt_mul_of_pos_right low (Nat.two_pow_pos _)
          _ = 2 ^ n := by rw [← Nat.pow_add, split]
          _ ≤ 2 ^ 32 := Nat.pow_le_pow_right (by decide) small
    have number : bits n (((self.cache % 2 ^ self.bitsCached) <<< more) |||
        (self.readCache >>> (32 - more))) = bitsFrom self.bytes position n := by
      rw [split, bits_shiftLeft_or _ _ _ _ upper, bits_mod _ le_rfl, at_.content, front,
        bitsFrom_add, place]
    have bounded : ((self.cache % 2 ^ self.bitsCached) <<< more) |||
        (self.readCache >>> (32 - more)) < 2 ^ n := by
      rw [split, Nat.shiftLeft_eq, Nat.mul_comm, ← Nat.two_pow_add_eq_or_of_lt upper, Nat.pow_add]
      calc 2 ^ more * (self.cache % 2 ^ self.bitsCached) + self.readCache >>> (32 - more)
          < 2 ^ more * (self.cache % 2 ^ self.bitsCached + 1) := by
            rw [Nat.mul_succ]
            exact Nat.add_lt_add_left upper _
        _ ≤ 2 ^ more * 2 ^ self.bitsCached := Nat.mul_le_mul_left _ low
        _ = 2 ^ self.bitsCached * 2 ^ more := Nat.mul_comm _ _
    have stands : At { self with
        bytePosition := self.bytePosition + 4
        cache := self.readCache
        bitsCached := 32 - more } (position + n) := by
      refine ⟨show 32 - more ≤ 32 by omega,
        show position + n + (32 - more) = 8 * (self.bytePosition + 4) by omega, ?_⟩
      rw [show position + n = 8 * self.bytePosition + more by omega]
      exact back
    exact ⟨_, by rw [joined, ← number, value_bits_of_lt bounded], stands, rfl⟩

/-- A field at the position of the stream is read back. -/
theorem read_field {self : BitInputStream} {position : Nat} (at_ : At self position) {n x : Nat}
    {l : List Bool} (small : n ≤ 32) (starts : Starts self.bytes position (bits n x ++ l)) :
    ∃ next, self.read n = .ok (x % 2 ^ n, next) ∧ At next (position + n) ∧
      Starts next.bytes (position + n) l ∧ next.bytes = self.bytes := by
  obtain ⟨next, reads, moved, same⟩ := read_spec at_ small
  obtain ⟨here, behind⟩ := starts.append
  unfold Starts at here
  rw [length_bits] at here behind
  rw [here, value_bits] at reads
  exact ⟨next, reads, moved, by rwa [same], same⟩

end BitInputStream

end GoldenGate
