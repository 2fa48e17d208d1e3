import Mathlib.Data.List.Basic
import Mathlib.Logic.Function.Basic

/-! # Maps whose values are written and read in blocks

The values of a map are sequences, and a block of one is written at an offset: at the start it replaces the sequence,
further on it goes over what is there. Whatever else happens to other keys in between, the blocks of an upload make up
the value, and the pieces of a download are the value.
-/

namespace GoldenGate.BlockMap

variable {κ α : Type}

/-- A block is written into a sequence. -/
def splice (offset : Nat) (block values : List α) : List α :=
  if offset = 0 then block else values.take offset ++ block ++ values.drop (offset + block.length)

theorem splice_end (block values : List α) :
    splice values.length block values = values ++ block := by
  by_cases empty : values.length = 0
  · rw [splice, if_pos empty, List.length_eq_zero_iff.mp empty, List.nil_append]
  · rw [splice, if_neg empty, List.take_length, List.drop_eq_nil_of_le (Nat.le_add_right _ _), List.append_nil]

/-- What happens to a map. -/
inductive Effect (κ α : Type) where
  | kept
  /-- The key has a value from now on, if only an empty one. -/
  | ensured (key : κ)
  | wrote (key : κ) (offset : Nat) (block : List α)
  | removed (key : κ)
  | cleared
  deriving Repr, DecidableEq

variable [DecidableEq κ]

/-- What is in a map afterwards. -/
def Effect.apply (contents : κ → Option (List α)) : Effect κ α → κ → Option (List α)
  | kept => contents
  | ensured key => Function.update contents key (some ((contents key).getD []))
  | wrote key offset block => Function.update contents key (some (splice offset block ((contents key).getD [])))
  | removed key => Function.update contents key none
  | cleared => fun _ => none

/-- Whether the value of a key may be another one afterwards. -/
def Effect.Touches (key : κ) : Effect κ α → Bool
  | kept => false
  | ensured _ => false
  | wrote key' _ _ => key' = key
  | removed key' => key' = key
  | cleared => true

/-- Some effects, one after the other. -/
def run (contents : κ → Option (List α)) (effects : List (Effect κ α)) : κ → Option (List α) :=
  effects.foldl Effect.apply contents

/-- A value stays as it is when its key is not touched. -/
theorem Effect.apply_untouched {contents : κ → Option (List α)} {key : κ} {value : List α}
    (holds : contents key = some value) {effect : Effect κ α} (untouched : effect.Touches key = false) :
    effect.apply contents key = some value := by
  cases effect with
  | kept => exact holds
  | ensured key' =>
      by_cases same : key = key'
      · subst same
        simp [apply, holds]
      · simp [apply, same, holds]
  | wrote key' offset block =>
      simp only [Touches, decide_eq_false_iff_not] at untouched
      simp [apply, Ne.symm untouched, holds]
  | removed key' =>
      simp only [Touches, decide_eq_false_iff_not] at untouched
      simp [apply, Ne.symm untouched, holds]
  | cleared => exact absurd untouched nofun

/-- That a key has a value shows only in what does not give it one. -/
theorem Effect.ensured_wrote (contents : κ → Option (List α)) (key : κ) (offset : Nat) (block : List α) :
    (wrote key offset block).apply ((ensured key).apply contents) = (wrote key offset block).apply contents := by
  simp only [apply, Function.update_self, Option.getD_some, Function.update_idem]

theorem Effect.ensured_ensured (contents : κ → Option (List α)) (key : κ) :
    (ensured key).apply ((ensured key).apply contents) = (ensured key).apply contents := by
  simp only [apply, Function.update_self, Option.getD_some, Function.update_idem]

theorem Effect.ensured_present {contents : κ → Option (List α)} {key : κ} {value : List α}
    (holds : contents key = some value) : (ensured key).apply contents = contents := by
  rw [apply, holds, Option.getD_some, ← holds, Function.update_eq_self]

/-- The effects of writing blocks, each at the offset where the one before it ends. -/
def writes (key : κ) : Nat → List (List α) → List (Effect κ α)
  | _, [] => []
  | offset, block :: blocks => .wrote key offset block :: writes key (offset + block.length) blocks

/-- An upload goes on from what is written already. -/
theorem run_writes {contents : κ → Option (List α)} {key : κ} {written : List α}
    (holds : contents key = some written) {effects : List (Effect κ α)} {blocks : List (List α)}
    (only : effects.filter (·.Touches key) = writes key written.length blocks) :
    run contents effects key = some (written ++ blocks.flatten) := by
  induction effects generalizing contents written blocks with
  | nil =>
      cases blocks with
      | nil => simpa [run] using holds
      | cons block blocks => simp [writes] at only
  | cons effect effects ih =>
      cases touches : effect.Touches key with
      | false =>
          rw [List.filter_cons_of_neg (by simp [touches])] at only
          exact ih (effect.apply_untouched holds touches) only
      | true =>
          rw [List.filter_cons_of_pos touches] at only
          cases blocks with
          | nil => simp [writes] at only
          | cons block blocks =>
              obtain ⟨rfl, later⟩ := List.cons.inj only
              have grows : (Effect.wrote key written.length block).apply contents key = some (written ++ block) := by
                simp [Effect.apply, holds, splice_end]
              have rest := ih grows (by rwa [List.length_append])
              rwa [List.append_assoc, ← List.flatten_cons] at rest

/-- The blocks of an upload from the start replace the value. -/
theorem run_upload (contents : κ → Option (List α)) {key : κ} {effects : List (Effect κ α)} {blocks : List (List α)}
    (some_ : blocks ≠ []) (only : effects.filter (·.Touches key) = writes key 0 blocks) :
    run contents effects key = some blocks.flatten := by
  induction effects generalizing contents with
  | nil =>
      cases blocks with
      | nil => exact absurd rfl some_
      | cons block blocks => simp [writes] at only
  | cons effect effects ih =>
      cases touches : effect.Touches key with
      | false =>
          rw [List.filter_cons_of_neg (by simp [touches])] at only
          exact ih _ only
      | true =>
          rw [List.filter_cons_of_pos touches] at only
          cases blocks with
          | nil => exact absurd rfl some_
          | cons block blocks =>
              obtain ⟨rfl, later⟩ := List.cons.inj only
              have replaces : (Effect.wrote key 0 block).apply contents key = some block := by
                simp [Effect.apply, splice]
              exact run_writes replaces (by rwa [Nat.zero_add] at later)

/-! ## Downloads -/

/-- Pieces of a sequence that are read from an offset, each where the one before it ends, up to the end. -/
inductive IsDownload (values : List α) : Nat → List (List α) → Prop where
  | last {offset size : Nat} : values.length ≤ offset + size → IsDownload values offset [(values.drop offset).take size]
  | more {offset size : Nat} {pieces : List (List α)} :
      offset + size < values.length → IsDownload values (offset + size) pieces →
      IsDownload values offset ((values.drop offset).take size :: pieces)

/-- The pieces of a download are what there is. -/
theorem IsDownload.flatten {values : List α} {offset : Nat} {pieces : List (List α)}
    (download : IsDownload values offset pieces) : pieces.flatten = values.drop offset := by
  induction download with
  | last ends =>
      rw [List.flatten_singleton, List.take_of_length_le]
      rw [List.length_drop]
      omega
  | more _ _ ih => rw [List.flatten_cons, ih, ← List.drop_drop, List.take_append_drop]

end GoldenGate.BlockMap
