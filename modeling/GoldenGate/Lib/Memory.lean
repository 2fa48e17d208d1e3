import Mathlib.Data.List.Basic
import Mathlib.Tactic.Linarith

/-! # Checked access to byte regions

A C object is a list of bytes, and a pointer into it is an offset. Every access
goes through `load` and `store`, which fault outside the region, so a function
that returns `.ok` on every input never leaves its objects. A loop whose bound is
not visible from its data carries a fuel argument; running out is a fault too, so
returning `.ok` also says that the loop ends.
-/

namespace GoldenGate.Memory

/-- What a program does not survive. -/
inductive Fault where
  /-- Access outside the object. -/
  | outOfBounds
  /-- A failed assertion. -/
  | assertion
  /-- A loop that did not end within its bound. -/
  | diverges
  /-- Use of an object that is gone, or of a variable that was not set. -/
  | undefined
  deriving Repr, DecidableEq

abbrev Access (α : Type) := Except Fault α

/-- `region[offset]`. -/
def load (region : List UInt8) (offset : Nat) : Access UInt8 :=
  match region[offset]? with
  | some b => .ok b
  | none => .error .outOfBounds

/-- `memcpy` of `size` bytes from an offset of a region. -/
def loadBytes (region : List UInt8) (offset size : Nat) : Access (List UInt8) :=
  if offset + size ≤ region.length then .ok ((region.drop offset).take size) else .error .outOfBounds

/-- `memcpy(region + offset, bytes, size)`. -/
def store (region : List UInt8) (offset : Nat) (bytes : List UInt8) : Access (List UInt8) :=
  if offset + bytes.length ≤ region.length then
    .ok (region.take offset ++ bytes ++ region.drop (offset + bytes.length))
  else .error .outOfBounds

/-- The program goes on only when the condition holds. -/
def assert (condition : Bool) : Access Unit :=
  if condition then .ok () else .error .assertion

/-- What is asked of the result of a checked computation can be decided. -/
instance decidableOk {α : Type} (x : Access α) (P : α → Prop) [∀ a, Decidable (P a)] :
    Decidable (∀ a, x = .ok a → P a) :=
  match x with
  | .error _ => isTrue fun _ ok => nomatch ok
  | .ok a => decidable_of_iff (P a) ⟨fun holds _ ok => Except.ok.inj ok ▸ holds, fun all => all a rfl⟩

/-- Sequencing a checked computation, in the form the proofs peel it. -/
theorem bind_ok {α β : Type} {x : Access α} {f : α → Access β} {r : β}
    (h : (x >>= f) = .ok r) : ∃ a, x = .ok a ∧ f a = .ok r := by
  cases x with
  | error e => exact absurd h (by simp [bind, Except.bind])
  | ok a => exact ⟨a, rfl, h⟩

@[simp] theorem ok_bind {α β : Type} (a : α) (f : α → Access β) :
    ((Except.ok a : Access α) >>= f) = f a := rfl

@[simp] theorem error_bind {α β : Type} (e : Fault) (f : α → Access β) :
    ((Except.error e : Access α) >>= f) = .error e := rfl

@[simp] theorem pure_ok {α : Type} (a : α) : (pure a : Access α) = .ok a := rfl

theorem assert_of {c : Prop} [Decidable c] (h : c) : assert (decide c) = .ok () := by
  simp [assert, h]

theorem load_append (pre : List UInt8) (b : UInt8) (rest : List UInt8) :
    load (pre ++ b :: rest) pre.length = .ok b := by
  simp [load]

theorem load_lt {region : List UInt8} {offset : Nat} (h : offset < region.length) :
    load region offset = .ok region[offset] := by
  simp [load, h]

theorem load_getD {region : List UInt8} {offset : Nat} (h : offset < region.length) :
    load region offset = .ok (region.getD offset 0) := by
  rw [load_lt h, List.getD_eq_getElem?_getD, List.getElem?_eq_getElem h, Option.getD_some]

theorem load_of_drop {region rest : List UInt8} {offset : Nat} {b : UInt8} (place : region.drop offset = b :: rest) :
    load region offset = .ok b ∧ region.drop (offset + 1) = rest := by
  have first : region[offset]? = some b := by
    have head := congrArg (fun l => l[0]?) place
    simpa using head
  constructor
  · rw [load, first]
  · rw [← List.drop_drop, place]
    rfl

theorem store_append (pre old bytes rest : List UInt8) (h : old.length = bytes.length) :
    store (pre ++ old ++ rest) pre.length bytes = .ok (pre ++ bytes ++ rest) := by
  have fits : pre.length + bytes.length ≤ (pre ++ old ++ rest).length := by
    simp only [List.length_append]
    omega
  rw [store, if_pos fits]
  have kept : (pre ++ old ++ rest).take pre.length = pre := by simp
  have tail : (pre ++ old ++ rest).drop (pre.length + bytes.length) = rest := by
    rw [← h, ← List.length_append, List.drop_left]
  rw [kept, tail]

/-- Writing behind what is written already. -/
theorem store_behind (done data bytes : List UInt8) (room : bytes.length ≤ data.length) :
    store (done ++ data) done.length bytes = .ok (done ++ bytes ++ data.drop bytes.length) := by
  have stores := store_append done (data.take bytes.length) bytes (data.drop bytes.length)
    (List.length_take_of_le room)
  rwa [List.append_assoc, List.take_append_drop] at stores

/-- Writing at the start. -/
theorem store_zero (data bytes : List UInt8) (room : bytes.length ≤ data.length) :
    store data 0 bytes = .ok (bytes ++ data.drop bytes.length) :=
  store_behind [] data bytes room

/-- Appending to what is written of a fresh region. -/
theorem store_fresh (done bytes : List UInt8) (room : Nat) (fits : bytes.length ≤ room) :
    store (done ++ List.replicate room 0) done.length bytes =
      .ok (done ++ bytes ++ List.replicate (room - bytes.length) 0) := by
  rw [store_behind done _ bytes (by simpa using fits), List.drop_replicate]

/-- Replacing one byte. -/
theorem store_at (before : List UInt8) (old new : UInt8) (rest : List UInt8) :
    store (before ++ old :: rest) before.length [new] = .ok (before ++ new :: rest) := by
  have stores := store_append before [old] [new] rest rfl
  simpa only [List.append_assoc, List.singleton_append] using stores

end GoldenGate.Memory
