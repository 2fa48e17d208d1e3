import Mathlib.Data.List.Nodup

/-! # Walks over lists that change

A list of entries, which are reached through pointers and numbered in the order in which they were
registered. While someone walks over the list, entries are appended and removed: the walk goes on from the
entry that it stands at, and meets no entry a second time.
-/

namespace GoldenGate.Registry

/-- What was registered, with the pointer to it and the number of its registration. -/
structure Entry (π α : Type) where
  pointer : π
  registration : Nat
  value : α
  deriving Repr, DecidableEq

variable {π α : Type} [DecidableEq π]

/-- The entry that a pointer points to. -/
def find (entries : List (Entry π α)) (pointer : π) : Option (Entry π α) :=
  entries.find? (·.pointer = pointer)

/-- The entries behind the one that a pointer points to. -/
def behind : List (Entry π α) → π → List (Entry π α)
  | [], _ => []
  | entry :: entries, pointer => if entry.pointer = pointer then entries else behind entries pointer

section Behind

variable {entries : List (Entry π α)} {pointer : π}

theorem behind_suffix : behind entries pointer <:+ entries := by
  induction entries with
  | nil => exact List.suffix_refl _
  | cons entry entries ih =>
      unfold behind
      split
      · exact List.suffix_cons _ _
      · exact ih.trans (List.suffix_cons _ _)

theorem behind_subset : behind entries pointer ⊆ entries := behind_suffix.subset

theorem behind_append (added : Entry π α) : ∀ entry ∈ behind (entries ++ [added]) pointer,
    entry ∈ behind entries pointer ∨ entry = added := by
  induction entries with
  | nil => grind [behind]
  | cons entry entries ih => grind [behind]

theorem behind_eraseP (p : Entry π α → Bool) : behind (entries.eraseP p) pointer ⊆ behind entries pointer := by
  induction entries with
  | nil => exact List.Subset.refl _
  | cons entry entries ih =>
      cases removed : p entry with
      | true =>
          rw [List.eraseP_cons_of_pos removed, behind]
          split
          · exact behind_subset
          · exact List.Subset.refl _
      | false =>
          rw [List.eraseP_cons_of_neg (by simp [removed]), behind, behind]
          split
          · exact List.eraseP_subset
          · exact ih

/-- With different pointers the next entry stands in front of the others. -/
theorem behind_next (distinct : (entries.map (·.pointer)).Nodup) {entry : Entry π α} {others : List (Entry π α)}
    (next : behind entries pointer = entry :: others) : behind entries entry.pointer = others := by
  induction entries with
  | nil => cases next
  | cons first entries ih =>
      grind [behind, behind_subset]

end Behind

/-! ## Numbered entries -/

/-- The entries have different pointers and different numbers, all below a counter. -/
structure Numbered (entries : List (Entry π α)) (counter : Nat) : Prop where
  pointers : (entries.map (·.pointer)).Nodup
  registrations : (entries.map (·.registration)).Nodup
  known : ∀ entry ∈ entries, entry.registration < counter

/-- A walk has met some entries, by their numbers, and stands at one that a pointer points to, if that is
    still there. -/
structure Walk (entries : List (Entry π α)) (counter : Nat) (met : List Nat) (current : π) : Prop where
  numbered : Numbered entries counter
  known : ∀ registration ∈ met, registration < counter
  once : met.Nodup
  ahead : ∀ entry ∈ behind entries current, entry.registration ∉ met

/-- What may happen to the entries while someone walks over them: one is appended or removed, or the counter
    is used for something else. -/
inductive Change (entries : List (Entry π α)) (counter : Nat) : List (Entry π α) → Nat → Prop where
  | same : Change entries counter entries counter
  | succ : Change entries counter entries (counter + 1)
  | append {pointer : π} (fresh : ∀ entry ∈ entries, entry.pointer ≠ pointer) (value : α) :
      Change entries counter (entries ++ [⟨pointer, counter, value⟩]) (counter + 1)
  | eraseP (p : Entry π α → Bool) : Change entries counter (entries.eraseP p) counter

section Numbered

variable {entries : List (Entry π α)} {counter : Nat}

omit [DecidableEq π] in
theorem Numbered.change {entries' : List (Entry π α)} {counter' : Nat} (numbered : Numbered entries counter)
    (change : Change entries counter entries' counter') : Numbered entries' counter' := by
  obtain ⟨pointers, registrations, known⟩ := numbered
  cases change with
  | same => exact ⟨pointers, registrations, known⟩
  | succ => exact ⟨pointers, registrations, fun entry is => Nat.lt_succ_of_lt (known entry is)⟩
  | append fresh value =>
      constructor
      · simp only [List.map_append, List.map_cons, List.map_nil, List.nodup_append]
        grind
      · simp only [List.map_append, List.map_cons, List.map_nil, List.nodup_append]
        grind
      · grind
  | eraseP p =>
      exact ⟨pointers.sublist (List.eraseP_sublist.map _), registrations.sublist (List.eraseP_sublist.map _),
        fun entry is => known entry (List.eraseP_subset is)⟩

end Numbered

section Walk

variable {entries : List (Entry π α)} {counter : Nat} {met : List Nat} {current : π}

/-- The walk begins with the first entry. -/
theorem Walk.first {entry : Entry π α} (numbered : Numbered (entry :: entries) counter) :
    Walk (entry :: entries) counter [entry.registration] entry.pointer := by
  have registrations := numbered.registrations
  refine ⟨numbered, ?_, List.nodup_singleton _, ?_⟩
  · have known := numbered.known entry (.head _)
    grind
  · rw [List.map_cons, List.nodup_cons] at registrations
    grind [behind]

theorem Walk.next (walk : Walk entries counter met current) {entry : Entry π α} {others : List (Entry π α)}
    (next : behind entries current = entry :: others) :
    Walk entries counter (met ++ [entry.registration]) entry.pointer := by
  obtain ⟨numbered, known, once, ahead⟩ := walk
  have isBehind : entry ∈ behind entries current := next ▸ .head _
  have apart := (next ▸ numbered.registrations.sublist (behind_suffix.sublist.map _) :
    ((entry :: others).map (·.registration)).Nodup)
  rw [List.map_cons, List.nodup_cons] at apart
  refine ⟨numbered, ?_, List.nodup_append.mpr ⟨once, List.nodup_singleton _, ?_⟩, ?_⟩
  · have small := numbered.known entry (behind_subset isBehind)
    grind
  · have new := ahead entry isBehind
    grind
  · rw [behind_next numbered.pointers next]
    intro other is met'
    rcases List.mem_append.mp met' with old | same
    · exact ahead other (next ▸ .tail _ is) old
    · exact apart.1 (List.mem_map.mpr ⟨other, is, List.mem_singleton.mp same⟩)

/-- The walk goes on whatever happens to the entries. -/
theorem Walk.change {entries' : List (Entry π α)} {counter' : Nat} (walk : Walk entries counter met current)
    (change : Change entries counter entries' counter') : Walk entries' counter' met current := by
  have numbered := walk.numbered.change change
  obtain ⟨-, known, once, ahead⟩ := walk
  have later (registration : Nat) (is : registration ∈ met) : registration < counter + 1 :=
    Nat.lt_succ_of_lt (known registration is)
  cases change with
  | same => exact ⟨numbered, known, once, ahead⟩
  | succ => exact ⟨numbered, later, once, ahead⟩
  | append fresh value =>
      refine ⟨numbered, later, once, ?_⟩
      intro entry is met'
      rcases behind_append _ entry is with old | rfl
      · exact ahead entry old met'
      · exact Nat.lt_irrefl _ (known _ met')
  | eraseP p => exact ⟨numbered, known, once, fun entry is => ahead entry (behind_eraseP p is)⟩

end Walk

end GoldenGate.Registry
