import Mathlib.Data.List.Nodup
import Mathlib.Logic.Function.Basic

/-! # Items with keys

A list of items that have different keys is a map from the keys to what the items hold. Adding, changing and removing
an item updates the map at its key.
-/

namespace GoldenGate.Keyed

variable {α κ β : Type} [DecidableEq κ] (key : α → κ) (value : α → β)

/-- What the first item with a key holds. -/
def lookup (items : List α) (wanted : κ) : Option β := (items.find? (key · = wanted)).map value

variable {key} {items : List α}

omit [DecidableEq κ] in
theorem eq_of_key (distinct : (items.map key).Nodup) {item other : α} (member : item ∈ items) (member' : other ∈ items)
    (same : key item = key other) : item = other :=
  List.inj_on_of_nodup_map distinct member member' same

theorem find?_of_mem (distinct : (items.map key).Nodup) {item : α} (member : item ∈ items) :
    items.find? (key · = key item) = some item := by
  cases found : items.find? (key · = key item) with
  | none => exact absurd (List.find?_eq_none.mp found item member) (by simp)
  | some other =>
      have same : key other = key item := by simpa using List.find?_some found
      rw [eq_of_key distinct (List.mem_of_find?_eq_some found) member same]

theorem lookup_of_mem (distinct : (items.map key).Nodup) {item : α} (member : item ∈ items) :
    lookup key value items (key item) = some (value item) := by
  rw [lookup, find?_of_mem distinct member, Option.map_some]

theorem lookup_eq_none {wanted : κ} : lookup key value items wanted = none ↔ ∀ item ∈ items, key item ≠ wanted := by
  simp [lookup]

theorem lookup_eq_some (distinct : (items.map key).Nodup) {wanted : κ} {held : β} :
    lookup key value items wanted = some held ↔ ∃ item ∈ items, key item = wanted ∧ value item = held := by
  constructor
  · intro holds
    obtain ⟨item, found, rfl⟩ := Option.map_eq_some_iff.mp holds
    exact ⟨item, List.mem_of_find?_eq_some found, by simpa using List.find?_some found, rfl⟩
  · rintro ⟨item, member, rfl, rfl⟩
    exact lookup_of_mem value distinct member

/-- An item with a new key is added. -/
theorem lookup_append {item : α} (absent : lookup key value items (key item) = none) :
    lookup key value (items ++ [item]) = Function.update (lookup key value items) (key item) (some (value item)) := by
  funext wanted
  rw [Function.update_apply]
  split
  case isTrue same =>
    subst same
    have none_ := Option.map_eq_none_iff.mp absent
    simp [lookup, List.find?_append, none_]
  case isFalse other =>
    have notItem : decide (key item = wanted) = false := decide_eq_false (Ne.symm other)
    simp [lookup, List.find?_append, notItem]

omit [DecidableEq κ] in
/-- One item is changed, which keeps its key. -/
theorem map_key_change {item : α} {changes : α → Prop} [DecidablePred changes]
    (only : ∀ other ∈ items, changes other ↔ other = item) {change : α → α} (keeps : key (change item) = key item) :
    (items.map fun other => if changes other then change other else other).map key = items.map key := by
  rw [List.map_map]
  apply List.map_congr_left
  intro other member
  simp only [Function.comp_apply]
  split
  case isTrue is =>
    rw [(only other member).mp is, keeps]
  case isFalse => rfl

theorem lookup_change (distinct : (items.map key).Nodup) {item : α} (member : item ∈ items) {changes : α → Prop}
    [DecidablePred changes] (only : ∀ other ∈ items, changes other ↔ other = item) {change : α → α}
    (keeps : key (change item) = key item) :
    lookup key value (items.map fun other => if changes other then change other else other) =
      Function.update (lookup key value items) (key item) (some (value (change item))) := by
  have distinct' := distinct
  rw [← map_key_change only keeps] at distinct'
  funext wanted
  by_cases same : wanted = key item
  · have there : change item ∈ items.map fun other => if changes other then change other else other :=
      List.mem_map.mpr ⟨item, member, if_pos ((only item member).mpr rfl)⟩
    subst same
    rw [Function.update_self, ← keeps]
    exact lookup_of_mem value distinct' there
  · rw [Function.update_of_ne same]
    apply Option.ext
    intro held
    rw [lookup_eq_some value distinct', lookup_eq_some value distinct]
    grind

/-- One item is removed. -/
theorem lookup_remove (distinct : (items.map key).Nodup) {item : α} (member : item ∈ items) {stays : α → Prop}
    [DecidablePred stays] (only : ∀ other ∈ items, ¬stays other ↔ other = item) :
    lookup key value (items.filter fun other => stays other) =
      Function.update (lookup key value items) (key item) none := by
  have sublist : (items.filter fun other => stays other).Sublist items := List.filter_sublist
  have distinct' := distinct.sublist (sublist.map key)
  have unique := @eq_of_key α κ key items distinct item
  funext wanted
  apply Option.ext
  intro held
  rw [lookup_eq_some value distinct', Function.update_apply]
  split
  case isTrue same =>
    subst same
    grind
  case isFalse other =>
    rw [lookup_eq_some value distinct]
    grind

end GoldenGate.Keyed
