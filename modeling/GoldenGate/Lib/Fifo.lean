import Mathlib.Data.List.Basic
import Mathlib.Data.Nat.ModEq

/-! # Bounded queues

A queue of bounded length in front of a sink that takes items, is blocked or fails, and that may be
gone. An item leaves the queue when it is taken or has failed, when there is no sink, or as the one
that was one too many. The queue itself is in an array, from a cursor on and around its end.
-/

namespace GoldenGate.Fifo

/-! ## Traces -/

/-- What is seen of a queue from outside. -/
inductive Event (σ α : Type) where
  | sink (sink : Option σ)
  | produced (item : α)
  | taken (sink : σ) (item : α)
  | blocked (sink : σ) (item : α)
  | failed (sink : σ) (item : α)
  | dropped (item : α)
  | refused (item : α)
  deriving Repr, DecidableEq

/-- The sink and the items in front of it. -/
structure Queue (σ α : Type) where
  sink : Option σ
  items : List α
  deriving Repr, DecidableEq

variable {σ α : Type}

/-- What a queue of some capacity may do. -/
inductive Step (capacity : Nat) : Queue σ α → Event σ α → Queue σ α → Prop where
  | sink {old items} (new : Option σ) : Step capacity ⟨old, items⟩ (.sink new) ⟨new, items⟩
  | produced {sink items} (item : α) : Step capacity ⟨sink, items⟩ (.produced item) ⟨sink, items ++ [item]⟩
  | taken {sink item items} : Step capacity ⟨some sink, item :: items⟩ (.taken sink item) ⟨some sink, items⟩
  | blocked {sink item items} :
      Step capacity ⟨some sink, item :: items⟩ (.blocked sink item) ⟨some sink, item :: items⟩
  | failed {sink item items} : Step capacity ⟨some sink, item :: items⟩ (.failed sink item) ⟨some sink, items⟩
  | dropped {item items} : Step capacity ⟨none, item :: items⟩ (.dropped item) ⟨none, items⟩
  | refused {sink items item} (full : items.length = capacity) :
      Step capacity ⟨sink, items ++ [item]⟩ (.refused item) ⟨sink, items⟩

/-- The queue after the events of a run. -/
inductive Runs (capacity : Nat) (first : Queue σ α) : List (Event σ α) → Queue σ α → Prop where
  | nil : Runs capacity first [] first
  | snoc {events queue event next} : Runs capacity first events queue → Step capacity queue event next →
      Runs capacity first (events ++ [event]) next

def produced : List (Event σ α) → List α :=
  List.filterMap fun
    | .produced item => some item
    | _ => none

/-- The items that the sink has taken. -/
def taken : List (Event σ α) → List α :=
  List.filterMap fun
    | .taken _ item => some item
    | _ => none

/-- The items that the sink has taken or has failed for. -/
def settled : List (Event σ α) → List α :=
  List.filterMap fun
    | .taken _ item => some item
    | .failed _ item => some item
    | _ => none

/-- The items that have failed, were dropped without a sink, or were one too many. -/
def lost : List (Event σ α) → List α :=
  List.filterMap fun
    | .failed _ item => some item
    | .dropped item => some item
    | .refused item => some item
    | _ => none

theorem produced_append (events events' : List (Event σ α)) :
    produced (events ++ events') = produced events ++ produced events' := List.filterMap_append

theorem taken_append (events events' : List (Event σ α)) : taken (events ++ events') = taken events ++ taken events' :=
  List.filterMap_append

theorem settled_append (events events' : List (Event σ α)) :
    settled (events ++ events') = settled events ++ settled events' := List.filterMap_append

theorem lost_append (events events' : List (Event σ α)) : lost (events ++ events') = lost events ++ lost events' :=
  List.filterMap_append

section Runs

variable {capacity : Nat} {events : List (Event σ α)} {queue : Queue σ α}

/-- The sink gets the items in the order in which they were produced, each one once, and those that are
    left come behind them. -/
theorem Runs.ordered {sink : Option σ} (runs : Runs capacity ⟨sink, []⟩ events queue) :
    (settled events ++ queue.items).Sublist (produced events) := by
  induction runs with
  | nil => exact .refl _
  | @snoc events queue event next _ step ih =>
      rw [settled_append, produced_append, List.append_assoc]
      cases step with
      | sink | blocked =>
          change (settled events ++ _).Sublist (produced events ++ [])
          rwa [List.append_nil]
      | produced item =>
          change (settled events ++ (_ ++ [item])).Sublist (produced events ++ [item])
          rw [← List.append_assoc]
          exact ih.append (List.Sublist.refl [item])
      | @taken _ item | @failed _ item =>
          change (settled events ++ item :: _).Sublist (produced events ++ [])
          rwa [List.append_nil]
      | dropped =>
          change (settled events ++ _).Sublist (produced events ++ [])
          rw [List.append_nil]
          exact ((List.sublist_cons_self _ _).append_left _).trans ih
      | refused =>
          change (settled events ++ _).Sublist (produced events ++ [])
          rw [List.append_nil]
          exact ((List.sublist_append_left _ _).append_left _).trans ih

/-- Nothing gets lost in another way, and nothing is there twice. -/
theorem Runs.accounted {sink : Option σ} (runs : Runs capacity ⟨sink, []⟩ events queue) :
    (taken events ++ (lost events ++ queue.items)).Perm (produced events) := by
  induction runs with
  | nil => exact .refl _
  | @snoc events queue event next _ step ih =>
      rw [taken_append, lost_append, produced_append]
      cases step with
      | sink | blocked =>
          change (taken events ++ [] ++ (lost events ++ [] ++ _)).Perm (produced events ++ [])
          simpa only [List.append_nil] using ih
      | produced item =>
          change (taken events ++ [] ++ (lost events ++ [] ++ (_ ++ [item]))).Perm (produced events ++ [item])
          rw [List.append_nil, List.append_nil, ← List.append_assoc, ← List.append_assoc, List.append_assoc (taken events)]
          exact ih.append_right [item]
      | @taken _ item items =>
          change (taken events ++ [item] ++ (lost events ++ [] ++ items)).Perm (produced events ++ [])
          rw [List.append_nil, List.append_nil, List.append_assoc, List.singleton_append]
          exact (List.Perm.append_left _ List.perm_middle.symm).trans ih
      | @failed _ item items | @dropped item items =>
          change (taken events ++ [] ++ (lost events ++ [item] ++ items)).Perm (produced events ++ [])
          rwa [List.append_nil, List.append_nil, List.append_assoc (lost events)]
      | @refused _ items item =>
          change (taken events ++ [] ++ (lost events ++ [item] ++ items)).Perm (produced events ++ [])
          rw [List.append_nil, List.append_nil, List.append_assoc (lost events)]
          exact (List.Perm.append_left _ (List.Perm.append_left _ (List.perm_append_singleton item items).symm)).trans ih

theorem taken_sublist (events : List (Event σ α)) : (taken events).Sublist (settled events) := by
  unfold taken settled
  induction events with
  | nil => exact .refl _
  | cons event events ih =>
      cases event with
      | taken sink item => exact ih.cons_cons item
      | failed sink item => exact ih.cons item
      | sink | produced | blocked | dropped | refused => exact ih

/-- Where nothing gets lost, the sink gets all items in their order, each one once, up to those that are
    left. -/
theorem Runs.lossless {sink : Option σ} (runs : Runs capacity ⟨sink, []⟩ events queue) (none_ : lost events = []) :
    taken events ++ queue.items = produced events := by
  have accounted := runs.accounted
  rw [none_, List.nil_append] at accounted
  exact (((taken_sublist events).append_right _).trans runs.ordered).eq_of_length accounted.length_eq
end Runs

/-! ## Circular arrays -/

/-- The array holds the items, from the cursor on and around its end. -/
structure Holds (slots : List (Option α)) (cursor : Nat) (items : List α) : Prop where
  inside : cursor < slots.length
  fits : items.length ≤ slots.length
  place : ∀ (i : Nat) (small : i < items.length), slots[(cursor + i) % slots.length]? = some (some items[i])

theorem holds_nil {slots : List (Option α)} {cursor : Nat} (inside : cursor < slots.length) :
    Holds slots cursor [] :=
  ⟨inside, Nat.zero_le _, fun _ small => absurd small (Nat.not_lt_zero _)⟩

section Holds

variable {slots : List (Option α)} {cursor : Nat} {items : List α}

theorem Holds.first {item : α} (holds : Holds slots cursor (item :: items)) : slots[cursor]? = some (some item) := by
  have place := holds.place 0 (Nat.succ_pos _)
  rwa [Nat.add_zero, Nat.mod_eq_of_lt holds.inside] at place

/-- The cursor moves on. -/
theorem Holds.pop {item : α} (holds : Holds slots cursor (item :: items)) :
    Holds slots ((cursor + 1) % slots.length) items := by
  obtain ⟨inside, fits, place⟩ := holds
  have size : 0 < slots.length := Nat.zero_lt_of_lt inside
  refine ⟨Nat.mod_lt _ size, Nat.le_of_succ_le fits, ?_⟩
  intro i small
  have next := place (i + 1) (Nat.succ_lt_succ small)
  rw [Nat.mod_add_mod, Nat.add_assoc, Nat.add_comm 1 i]
  exact next

/-- Slots of less than a whole turn are apart. -/
theorem slot_inj {size cursor i j : Nat} (same : (cursor + i) % size = (cursor + j) % size) (smallI : i < size)
    (smallJ : j < size) : i = j := by
  have equal : Nat.ModEq size i j := Nat.ModEq.add_left_cancel' cursor same
  rwa [Nat.ModEq, Nat.mod_eq_of_lt smallI, Nat.mod_eq_of_lt smallJ] at equal

/-- The slot behind the items is free. -/
theorem Holds.push (holds : Holds slots cursor items) (room : items.length < slots.length) (item : α) :
    Holds (slots.set ((cursor + items.length) % slots.length) (some item)) cursor (items ++ [item]) := by
  obtain ⟨inside, fits, place⟩ := holds
  have size : 0 < slots.length := Nat.zero_lt_of_lt inside
  refine ⟨by rwa [List.length_set], ?_, ?_⟩
  · rw [List.length_set, List.length_append]
    exact room
  intro i small
  rw [List.length_append, List.length_singleton] at small
  rw [List.length_set]
  by_cases last : i = items.length
  · subst last
    rw [List.getElem?_set_self (Nat.mod_lt _ size), List.getElem_concat_length]
    rfl
  · have before : i < items.length := by omega
    have apart : (cursor + items.length) % slots.length ≠ (cursor + i) % slots.length :=
      fun same => last (slot_inj same room (Nat.lt_of_lt_of_le before fits)).symm
    rw [List.getElem?_set_ne apart, place i before, List.getElem_append_left before]

/-- An item is replaced in its slot. -/
theorem Holds.set (holds : Holds slots cursor items) {i : Nat} (small : i < items.length) (item : α) :
    Holds (slots.set ((cursor + i) % slots.length) (some item)) cursor (items.set i item) := by
  obtain ⟨inside, fits, place⟩ := holds
  have size : 0 < slots.length := Nat.zero_lt_of_lt inside
  refine ⟨by rwa [List.length_set], by rwa [List.length_set, List.length_set], ?_⟩
  intro j small'
  rw [List.length_set] at small'
  rw [List.length_set]
  by_cases same : i = j
  · subst same
    rw [List.getElem?_set_self (Nat.mod_lt _ size), List.getElem_set_self]
  · have apart : (cursor + i) % slots.length ≠ (cursor + j) % slots.length :=
      fun equal => same (slot_inj equal (Nat.lt_of_lt_of_le small fits) (Nat.lt_of_lt_of_le small' fits))
    rw [List.getElem?_set_ne apart, place j small', List.getElem_set_ne same]

end Holds

end GoldenGate.Fifo
