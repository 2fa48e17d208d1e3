import Mathlib.Data.List.Basic
import Mathlib.Tactic.Ring

/-! # Numbers in groups of seven bits

Each byte has seven bits of the number, the lowest first, and says with its top bit whether
another one follows.
-/

namespace GoldenGate.Varint

/-- The number that bytes stand for. -/
def number : List UInt8 → Nat
  | [] => 0
  | b :: rest => b.toNat % 128 + 128 * number rest

/-- The last byte, and only it, is one that none follows. -/
inductive Complete : List UInt8 → Prop where
  | last {b : UInt8} : b.toNat < 128 → Complete [b]
  | more {b : UInt8} {rest : List UInt8} : 128 ≤ b.toNat → Complete rest → Complete (b :: rest)

/-- The shortest group for a number. -/
def group (n : Nat) : List UInt8 :=
  if n < 128 then [UInt8.ofNat n] else UInt8.ofNat (n % 128 + 128) :: group (n / 128)
termination_by n

theorem Complete.length_pos {bytes : List UInt8} (complete : Complete bytes) : 0 < bytes.length := by
  cases complete with
  | last => exact Nat.one_pos
  | more => exact Nat.succ_pos _

/-- Where a group ends can be seen from its bytes. -/
theorem Complete.unique {a b x y : List UInt8} (isA : Complete a) (isB : Complete b) (same : a ++ x = b ++ y) :
    a = b ∧ x = y := by
  induction isA generalizing b with
  | last low =>
      cases isB with
      | last => simpa using same
      | more high =>
          obtain ⟨rfl, -⟩ := List.cons.inj same
          omega
  | more high _ ih =>
      cases isB with
      | last low =>
          obtain ⟨rfl, -⟩ := List.cons.inj same
          omega
      | more _ isRest =>
          obtain ⟨rfl, behind⟩ := List.cons.inj same
          obtain ⟨rfl, rfl⟩ := ih isRest behind
          exact ⟨rfl, rfl⟩

theorem complete_group (n : Nat) : Complete (group n) := by
  induction n using group.induct with
  | case1 n low =>
      rw [group, if_pos low]
      exact .last (by rw [UInt8.toNat_ofNat']; omega)
  | case2 n high ih =>
      rw [group, if_neg high]
      exact .more (by rw [UInt8.toNat_ofNat']; omega) ih

theorem number_group (n : Nat) : number (group n) = n := by
  induction n using group.induct with
  | case1 n low =>
      rw [group, if_pos low, number, number, UInt8.toNat_ofNat']
      omega
  | case2 n high ih =>
      rw [group, if_neg high, number, ih, UInt8.toNat_ofNat']
      omega

/-- A number of so many times seven bits has a group of no more than as many bytes. -/
theorem length_group_le {k n : Nat} (small : n < 128 ^ (k + 1)) : (group n).length ≤ k + 1 := by
  induction k generalizing n with
  | zero =>
      rw [group, if_pos (by omega)]
      exact le_rfl
  | succ k ih =>
      rw [group]
      split
      case isTrue => simp
      case isFalse =>
          have shorter : n / 128 < 128 ^ (k + 1) := by
            rw [Nat.div_lt_iff_lt_mul (by decide), ← Nat.pow_succ]
            exact small
          exact Nat.succ_le_succ (ih shorter)

theorem number_lt (bytes : List UInt8) : number bytes < 128 ^ bytes.length := by
  induction bytes with
  | nil => exact Nat.one_pos
  | cons b rest ih =>
      have digit : b.toNat % 128 < 128 := Nat.mod_lt _ (by decide)
      rw [number, List.length_cons, Nat.pow_succ]
      omega

/-- A group is no longer than any bytes that stand for the number or a larger one. -/
theorem Complete.length_group_le {bytes : List UInt8} (complete : Complete bytes) {n : Nat} (le : n ≤ number bytes) :
    (group n).length ≤ bytes.length := by
  have some_ := complete.length_pos
  have small : n < 128 ^ (bytes.length - 1 + 1) := by
    rw [Nat.sub_add_cancel some_]
    exact Nat.lt_of_le_of_lt le (number_lt bytes)
  have short := Varint.length_group_le small
  omega

/-- Bytes begin with a number as soon as one of them is one that none follows. -/
theorem complete_prefix_iff {bytes : List UInt8} :
    (∃ b ∈ bytes, b.toNat < 128) ↔ ∃ front others, bytes = front ++ others ∧ Complete front := by
  constructor
  · intro ⟨b, member, low⟩
    induction bytes with
    | nil => exact absurd member List.not_mem_nil
    | cons first bytes ih =>
        by_cases ends : first.toNat < 128
        · exact ⟨[first], bytes, rfl, .last ends⟩
        · cases member with
          | head => exact absurd low ends
          | tail _ member =>
              obtain ⟨front, others, rfl, complete⟩ := ih member
              exact ⟨first :: front, others, rfl, .more (Nat.le_of_not_lt ends) complete⟩
  · rintro ⟨front, others, rfl, complete⟩
    induction complete with
    | @last b low => exact ⟨b, List.mem_cons_self, low⟩
    | more _ _ ih =>
        obtain ⟨b, member, low⟩ := ih
        exact ⟨b, List.mem_cons_of_mem _ member, low⟩

/-! ## Messages of numbers -/

/-- A number at the front of bytes, and what follows it. -/
def readNumber : List UInt8 → Option (Nat × List UInt8)
  | [] => none
  | b :: rest =>
      if b.toNat < 128 then some (b.toNat, rest)
      else (readNumber rest).map fun (n, rest) => (b.toNat % 128 + 128 * n, rest)

theorem readNumber_complete {bytes : List UInt8} (complete : Complete bytes) (rest : List UInt8) :
    readNumber (bytes ++ rest) = some (number bytes, rest) := by
  induction complete with
  | last low => simp [readNumber, number, low, Nat.mod_eq_of_lt low]
  | more high _ ih => simp [readNumber, number, Nat.not_lt.mpr high, ih]

theorem readNumber_group (n : Nat) (rest : List UInt8) : readNumber (group n ++ rest) = some (n, rest) := by
  rw [readNumber_complete (complete_group n), number_group]

/-- Fields with a number as their value, each behind a number that has the wire type 0 in its lowest bits and above
    it the number of the field. -/
def readFields : Nat → List UInt8 → Option (List (Nat × Nat))
  | _, [] => some []
  | 0, _ :: _ => none
  | fuel + 1, b :: bytes => do
      let (key, rest) ← readNumber (b :: bytes)
      guard (key % 8 = 0)
      let (value, rest) ← readNumber rest
      let fields ← readFields fuel rest
      some ((key / 8, value) :: fields)

/-- A message of such fields. -/
def readMessage (bytes : List UInt8) : Option (List (Nat × Nat)) := readFields bytes.length bytes

/-- The bytes of a field. -/
def field (n value : Nat) : List UInt8 := group (8 * n) ++ group value

theorem readFields_flatMap {fuel : Nat} (fields : List (Nat × Nat))
    (enough : (fields.flatMap fun (n, value) => field n value).length ≤ fuel) :
    readFields fuel (fields.flatMap fun (n, value) => field n value) = some fields := by
  induction fields generalizing fuel with
  | nil => cases fuel <;> rfl
  | cons first fields ih =>
      obtain ⟨n, value⟩ := first
      have key := readNumber_group (8 * n) (group value ++ fields.flatMap fun (n, value) => field n value)
      have last := readNumber_group value (fields.flatMap fun (n, value) => field n value)
      have some_ := (complete_group (8 * n)).length_pos
      simp only [List.flatMap_cons, field, List.append_assoc, List.length_append] at enough key last ⊢
      generalize group (8 * n) = keyBytes at *
      cases keyBytes with
      | nil => exact absurd some_ (Nat.lt_irrefl 0)
      | cons b keyBytes =>
          cases fuel with
          | zero => simp at enough
          | succ fuel =>
              have rest := @ih fuel (by simp only [field, List.length_cons] at enough ⊢; omega)
              rw [List.cons_append] at key ⊢
              simp only [field] at rest
              simp [readFields, key, last, rest]

theorem readMessage_flatMap (fields : List (Nat × Nat)) :
    readMessage (fields.flatMap fun (n, value) => field n value) = some fields :=
  readFields_flatMap fields (Nat.le_refl _)

end GoldenGate.Varint
