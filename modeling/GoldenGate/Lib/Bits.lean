import Mathlib.Data.Nat.Bitwise
import Mathlib.Data.List.Basic
import Mathlib.Data.List.Induction
import Mathlib.Tactic.Ring

/-! # Numbers and byte strings as bits

Bits are listed from the most significant one down, the order in which they leave
and enter a stream. `bits n x` has the low `n` bits of `x`; a byte string has the
bits of its bytes in order, and zeros for ever after.
-/

namespace GoldenGate.Bits

/-- The low `n` bits of a number. -/
def bits : Nat → Nat → List Bool
  | 0, _ => []
  | n + 1, x => x.testBit n :: bits n x

/-- The number a list of bits stands for. -/
def value (l : List Bool) : Nat := l.foldl (fun v b => 2 * v + b.toNat) 0

@[simp] theorem length_bits (n x : Nat) : (bits n x).length = n := by
  induction n with
  | zero => rfl
  | succ n ih => simp [bits, ih]

/-- A field cut in two: the upper bits are those of the shifted number. -/
theorem bits_add (a b x : Nat) : bits (a + b) x = bits a (x >>> b) ++ bits b x := by
  induction a with
  | zero => simp [bits]
  | succ a ih =>
      rw [Nat.succ_add a b]
      simp only [bits, ih, List.cons_append, Nat.testBit_shiftRight]
      rw [Nat.add_comm b a]

theorem bits_congr {n x y : Nat} (same : ∀ i < n, x.testBit i = y.testBit i) :
    bits n x = bits n y := by
  induction n with
  | zero => rfl
  | succ n ih =>
      rw [bits, bits, same n (Nat.lt_succ_self n), ih fun i h => same i (Nat.lt_succ_of_lt h)]

/-- Only the low bits matter. -/
theorem bits_mod {n k : Nat} (x : Nat) (h : n ≤ k) : bits n (x % 2 ^ k) = bits n x := by
  refine bits_congr fun i small => ?_
  simp [Nat.testBit_mod_two_pow, show i < k by omega]

/-- Two fields side by side in one word. -/
theorem bits_shiftLeft_or (a b x y : Nat) (small : y < 2 ^ b) :
    bits (a + b) ((x <<< b) ||| y) = bits a x ++ bits b y := by
  rw [bits_add]
  congr 1
  · congr 1
    rw [Nat.shiftRight_or_distrib, Nat.shiftLeft_shiftRight, Nat.shiftRight_eq_div_pow,
      Nat.div_eq_of_lt small, Nat.or_zero]
  · refine bits_congr fun i h => ?_
    simp [Nat.testBit_or, Nat.testBit_shiftLeft, show ¬ b ≤ i by omega]

theorem value_append_bit (l : List Bool) (b : Bool) : value (l ++ [b]) = 2 * value l + b.toNat := by
  simp [value]

theorem bits_succ (n x : Nat) : bits (n + 1) x = bits n (x / 2) ++ [x.testBit 0] := by
  rw [bits_add n 1 x, Nat.shiftRight_one]
  rfl

/-- Writing a number in `n` bits keeps it modulo `2 ^ n`. -/
theorem value_bits (n x : Nat) : value (bits n x) = x % 2 ^ n := by
  induction n generalizing x with
  | zero => simp [bits, value, Nat.mod_one]
  | succ n ih =>
      rw [bits_succ, value_append_bit, ih]
      have low : (x.testBit 0).toNat = x % 2 := by
        rw [Nat.testBit_zero]
        rcases Nat.mod_two_eq_zero_or_one x with h | h <;> simp [h]
      rw [low, Nat.pow_succ, Nat.mul_comm (2 ^ n) 2, Nat.mod_mul]
      omega

theorem value_bits_of_lt {n x : Nat} (small : x < 2 ^ n) : value (bits n x) = x := by
  rw [value_bits, Nat.mod_eq_of_lt small]

theorem value_lt (l : List Bool) : value l < 2 ^ l.length := by
  induction l using List.reverseRecOn with
  | nil => exact Nat.one_pos
  | append_singleton l b ih =>
      have bit : b.toNat < 2 := b.toNat_lt
      rw [value_append_bit, List.length_append, List.length_singleton, Nat.pow_succ]
      omega

/-! ## Byte strings -/

/-- Bit `i` of a byte string, 0 behind its end. -/
def bitAt (data : List UInt8) (i : Nat) : Bool := (data.getD (i / 8) 0).toNat.testBit (7 - i % 8)

/-- `n` bits of a byte string, from bit `position` on. -/
def bitsFrom (data : List UInt8) (position n : Nat) : List Bool :=
  (List.range n).map fun i => bitAt data (position + i)

@[simp] theorem length_bitsFrom (data : List UInt8) (position n : Nat) :
    (bitsFrom data position n).length = n := by
  simp [bitsFrom]

theorem bitsFrom_add (data : List UInt8) (position a b : Nat) :
    bitsFrom data position (a + b) =
      bitsFrom data position a ++ bitsFrom data (position + a) b := by
  simp only [bitsFrom, List.range_add, List.map_append, List.map_map]
  congr 1
  refine List.map_congr_left fun i _ => ?_
  simp [Nat.add_assoc]

/-- A whole byte at a byte boundary. -/
theorem bitsFrom_byte (data : List UInt8) (i : Nat) :
    bitsFrom data (8 * i) 8 = bits 8 (data.getD i 0).toNat := by
  have place : ∀ j < 8, bitAt data (8 * i + j) = (data.getD i 0).toNat.testBit (7 - j) := by
    intro j small
    rw [bitAt, show (8 * i + j) / 8 = i by omega, show (8 * i + j) % 8 = j by omega]
  have listed : bitsFrom data (8 * i) 8 =
      (List.range 8).map fun j => (data.getD i 0).toNat.testBit (7 - j) :=
    List.map_congr_left fun j member => place j (List.mem_range.mp member)
  rw [listed]
  rfl

/-- The bits of a byte string. -/
def bytesBits (data : List UInt8) : List Bool := data.flatMap fun b => bits 8 b.toNat

@[simp] theorem bytesBits_append (data data' : List UInt8) :
    bytesBits (data ++ data') = bytesBits data ++ bytesBits data' := by
  simp [bytesBits]

@[simp] theorem length_bytesBits (data : List UInt8) : (bytesBits data).length = 8 * data.length := by
  induction data with
  | nil => rfl
  | cons b data ih =>
      simp only [bytesBits, List.flatMap_cons, List.length_append, length_bits,
        List.length_cons] at *
      omega

theorem bytesBits_take (data : List UInt8) (n : Nat) :
    bytesBits (data.take n) <+: bytesBits data :=
  ⟨bytesBits (data.drop n), by rw [← bytesBits_append, List.take_append_drop]⟩

theorem bitsFrom_append (data data' : List UInt8) {n : Nat} (inside : n ≤ 8 * data.length) :
    bitsFrom (data ++ data') 0 n = bitsFrom data 0 n := by
  refine List.map_congr_left fun i member => ?_
  have small : i < n := List.mem_range.mp member
  simp only [bitAt, Nat.zero_add]
  rw [List.getD_append _ _ _ _ (by omega)]

theorem bitsFrom_all (data : List UInt8) : bitsFrom data 0 (8 * data.length) = bytesBits data := by
  induction data using List.reverseRecOn with
  | nil => rfl
  | append_singleton data b ih =>
      rw [List.length_append, List.length_singleton, Nat.mul_succ, bitsFrom_add,
        bitsFrom_append _ _ le_rfl, ih, Nat.zero_add, bitsFrom_byte, bytesBits_append]
      simp [bytesBits]

/-- The byte string starts, at a bit position, with these bits. -/
def Starts (data : List UInt8) (position : Nat) (l : List Bool) : Prop :=
  bitsFrom data position l.length = l

theorem Starts.append {data : List UInt8} {position : Nat} {l l' : List Bool}
    (starts : Starts data position (l ++ l')) :
    Starts data position l ∧ Starts data (position + l.length) l' := by
  unfold Starts at *
  rw [List.length_append, bitsFrom_add] at starts
  exact List.append_inj starts (by simp)

/-- What a byte string's bits start with, it starts with at position 0. -/
theorem starts_of_bytes {data : List UInt8} {l : List Bool} (content : l <+: bytesBits data)
    (data' : List UInt8) : Starts (data ++ data') 0 l := by
  obtain ⟨l', content⟩ := content
  have whole : Starts (data ++ data') 0 (l ++ l') := by
    unfold Starts
    rw [content, length_bytesBits, bitsFrom_append _ _ le_rfl, bitsFrom_all]
  exact whole.append.1

/-- The four bytes of a word, most significant first. -/
theorem bits_word (w : Nat) :
    bits 32 w = bytesBits
      [UInt8.ofNat (w >>> 24), UInt8.ofNat (w >>> 16), UInt8.ofNat (w >>> 8), UInt8.ofNat w] := by
  have byte : ∀ x, bits 8 (x % 256) = bits 8 x := fun x => bits_mod x (le_refl 8)
  rw [bits_add 24 8 w, bits_add 16 8 (w >>> 8), bits_add 8 8 (w >>> 8 >>> 8)]
  simp [bytesBits, byte, ← Nat.shiftRight_add]

/-! ## Words put together from flags -/

/-- The word with all the given values; the second components are their masks. -/
def join (parts : List (Nat × Nat)) : Nat := parts.foldr (fun part word => part.1 ||| word) 0

/-- The word is what setting the values one after the other comes to. -/
theorem foldl_or_eq_join (parts parts' : List (Nat × Nat)) (word : Nat) :
    parts.foldl (fun word part => word ||| part.1) word ||| join parts' =
      word ||| join (parts ++ parts') := by
  induction parts generalizing word with
  | nil => rfl
  | cons part parts ih =>
      rw [List.foldl_cons, ih, Nat.or_assoc]
      rfl

theorem join_and_disjoint {parts : List (Nat × Nat)} {m : Nat}
    (masked : ∀ part ∈ parts, part.1 &&& part.2 = part.1)
    (disjoint : ∀ part ∈ parts, part.2 &&& m = 0) : join parts &&& m = 0 := by
  induction parts with
  | nil => simp [join]
  | cons part parts ih =>
      have first : part.1 &&& m = 0 := by
        rw [← masked part List.mem_cons_self, Nat.and_assoc, disjoint part List.mem_cons_self,
          Nat.and_zero]
      have others : join parts &&& m = 0 :=
        ih (fun p member => masked p (List.mem_cons_of_mem _ member))
          (fun p member => disjoint p (List.mem_cons_of_mem _ member))
      change (part.1 ||| join parts) &&& m = 0
      rw [Nat.and_or_distrib_right, first, others, Nat.or_zero]

/-- A mask cuts its own value out of the word. -/
theorem join_and {parts : List (Nat × Nat)} {v m : Nat}
    (masked : ∀ part ∈ parts, part.1 &&& part.2 = part.1)
    (disjoint : parts.Pairwise fun a b => a.2 &&& b.2 = 0) (member : (v, m) ∈ parts) :
    join parts &&& m = v := by
  induction parts with
  | nil => simp at member
  | cons part parts ih =>
      obtain ⟨first, others⟩ := List.pairwise_cons.mp disjoint
      have maskedOthers : ∀ p ∈ parts, p.1 &&& p.2 = p.1 :=
        fun p member => masked p (List.mem_cons_of_mem _ member)
      change (part.1 ||| join parts) &&& m = v
      rw [Nat.and_or_distrib_right]
      rcases List.mem_cons.mp member with rfl | later
      · have none : join parts &&& m = 0 := by
          refine join_and_disjoint maskedOthers fun p inside => ?_
          rw [Nat.and_comm]
          exact first p inside
        rw [none, Nat.or_zero]
        exact masked _ List.mem_cons_self
      · have none : part.1 &&& m = 0 := by
          rw [← masked part List.mem_cons_self, Nat.and_assoc, first _ later, Nat.and_zero]
        rw [none, Nat.zero_or]
        exact ih maskedOthers others later

theorem join_lt {parts : List (Nat × Nat)} {n : Nat} (small : ∀ part ∈ parts, part.1 < 2 ^ n) :
    join parts < 2 ^ n := by
  induction parts with
  | nil => exact Nat.two_pow_pos n
  | cons part parts ih =>
      exact Nat.or_lt_two_pow (small part List.mem_cons_self)
        (ih fun p member => small p (List.mem_cons_of_mem _ member))

end GoldenGate.Bits
