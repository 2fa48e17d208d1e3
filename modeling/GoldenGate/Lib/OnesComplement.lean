import Mathlib.Data.List.Basic
import Mathlib.Tactic.Linarith

/-! # Sums in ones' complement

Words of 16 bits are added with the carry brought around to the low end. Such a sum is the plain sum
up to multiples of `2 ^ 16 - 1`, and is zero only for zeros. So the carries can be added at the end,
and the complement of a sum makes the sum all ones.
-/

namespace GoldenGate.OnesComplement

/-- The 16-bit words of bytes, the first byte of each in front, and a zero behind an odd byte. -/
def words : List UInt8 → List Nat
  | hi :: lo :: rest => (hi.toNat * 256 + lo.toNat) :: words rest
  | [b] => [b.toNat * 256]
  | [] => []

/-- An addition that brings the carry around. -/
def add (a b : Nat) : Nat := if a + b < 65536 then a + b else a + b - 65535

/-- The sum of all words. -/
def sum (data : List UInt8) : Nat := (words data).foldl add 0

/-- The word for a plain sum. -/
def wrap (n : Nat) : Nat := if n = 0 then 0 else (n - 1) % 65535 + 1

/-- The carries of a plain sum are added to its low word. -/
def fold (n : Nat) : Nat := n / 65536 + n % 65536

theorem words_lt (data : List UInt8) : ∀ w ∈ words data, w < 65536 := by
  fun_induction words data with
  | case1 hi lo rest ih =>
      have high := hi.toNat_lt
      have low := lo.toNat_lt
      intro w member
      cases List.mem_cons.mp member with
      | inl equal => omega
      | inr later => exact ih w later
  | case2 b =>
      have small := b.toNat_lt
      intro w member
      rw [List.mem_singleton.mp member]
      omega
  | case3 => exact fun w member => (nomatch member)

theorem add_wrap (n : Nat) {w : Nat} (small : w < 65536) : add (wrap n) w = wrap (n + w) := by
  unfold add wrap
  by_cases zero : n = 0
  · subst zero
    split_ifs <;> omega
  · have notZero : n + w ≠ 0 := by omega
    rw [if_neg zero, if_neg notZero]
    split_ifs <;> omega

/-- The words may be added first, and the carries at the end. -/
theorem foldl_add (ws : List Nat) (small : ∀ w ∈ ws, w < 65536) (n : Nat) :
    ws.foldl add (wrap n) = wrap (n + ws.sum) := by
  induction ws generalizing n with
  | nil => rfl
  | cons w ws ih =>
      rw [List.foldl_cons, add_wrap n (small w List.mem_cons_self),
        ih (fun v member => small v (List.mem_cons_of_mem _ member)), List.sum_cons, Nat.add_assoc]

theorem sum_eq (data : List UInt8) : sum data = wrap (words data).sum := by
  have added := foldl_add (words data) (words_lt data) 0
  rwa [Nat.zero_add] at added

theorem wrap_of_lt {n : Nat} (small : n < 65536) : wrap n = n := by
  unfold wrap
  split_ifs <;> omega

theorem wrap_fold (n : Nat) : wrap (fold n) = wrap n := by
  unfold wrap fold
  split_ifs <;> omega

/-- A sum and its complement are all ones. -/
theorem wrap_complement {n : Nat} : wrap (n + (65535 - wrap n)) = 65535 := by
  unfold wrap
  by_cases zero : n = 0
  · simp [zero]
  · rw [if_neg zero]
    split_ifs <;> omega

/-- Bytes behind an even number of bytes add their own words. -/
theorem words_append {front : List UInt8} (even : front.length % 2 = 0) (rest : List UInt8) :
    words (front ++ rest) = words front ++ words rest := by
  fun_induction words front with
  | case1 hi lo front ih =>
      have even' : front.length % 2 = 0 := by
        simp only [List.length_cons] at even
        omega
      rw [List.cons_append, List.cons_append, words, ih even']
      rfl
  | case2 b => exact absurd even (by simp)
  | case3 => rfl

/-- There are half as many words as bytes, and they are small. -/
theorem sum_words_le (data : List UInt8) : (words data).sum ≤ (data.length + 1) / 2 * 65535 := by
  fun_induction words data with
  | case1 hi lo rest ih =>
      have high := hi.toNat_lt
      have low := lo.toNat_lt
      simp only [List.sum_cons, List.length_cons]
      omega
  | case2 b =>
      have small := b.toNat_lt
      simp only [List.sum_cons, List.sum_nil, List.length_singleton]
      omega
  | case3 => exact Nat.zero_le _

end GoldenGate.OnesComplement
