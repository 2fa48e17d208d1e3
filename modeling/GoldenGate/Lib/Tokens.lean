import Mathlib.Data.List.Range
import Mathlib.Data.List.Nodup
import Mathlib.Data.List.Perm.Subperm
import Mathlib.Logic.Function.Basic

/-! # Tokens

A fixed number of tokens, each of which is free or has a holder. A holder that takes a free one and a holder that gives
its own back keep it so; while somebody holds a token, not all of them are free.
-/

namespace GoldenGate

variable {ι : Type}

/-- Each of `n` tokens is in one place: among those that are free, or with one holder. -/
structure Tokens (n : Nat) (free : List Nat) (held : ι → Option Nat) : Prop where
  nodup : free.Nodup
  free_lt : ∀ token ∈ free, token < n
  held_lt : ∀ holder token, held holder = some token → token < n
  notFree : ∀ holder token, held holder = some token → token ∉ free
  unique : ∀ holder other token, held holder = some token → held other = some token → holder = other
  covered : ∀ token < n, token ∈ free ∨ ∃ holder, held holder = some token

namespace Tokens

variable {n token : Nat} {free free' : List Nat} {held held' : ι → Option Nat} {holder : ι}

theorem start (n : Nat) : Tokens n (List.range n) (fun _ : ι => none) where
  nodup := List.nodup_range
  free_lt _ member := List.mem_range.mp member
  held_lt _ _ holds := by cases holds
  notFree _ _ holds := by cases holds
  unique _ _ _ holds := by cases holds
  covered _ inside := .inl (List.mem_range.mpr inside)

theorem perm (tokens : Tokens n free held) (same : free.Perm free') : Tokens n free' held where
  nodup := same.nodup_iff.mp tokens.nodup
  free_lt token member := tokens.free_lt token (same.mem_iff.mpr member)
  held_lt := tokens.held_lt
  notFree holder token holds member := tokens.notFree holder token holds (same.mem_iff.mpr member)
  unique := tokens.unique
  covered token inside := (tokens.covered token inside).imp_left same.mem_iff.mp

theorem congr (tokens : Tokens n free held) (same : ∀ holder, held' holder = held holder) : Tokens n free held' := by
  rwa [funext same]

/-- Somebody takes a free token. -/
theorem take (tokens : Tokens n (token :: free) held) (nothing : held holder = none)
    (taken : held' holder = some token) (others : ∀ other, other ≠ holder → held' other = held other) :
    Tokens n free held' := by
  obtain ⟨nodup, free_lt, held_lt, notFree, unique, covered⟩ := tokens
  have notIn := (List.nodup_cons.mp nodup).1
  have back (other : ι) (token' : Nat) (holds : held' other = some token') :
      (other = holder ∧ token' = token) ∨ (other ≠ holder ∧ held other = some token') := by
    by_cases own : other = holder
    · subst own
      rw [taken] at holds
      exact .inl ⟨rfl, (Option.some.inj holds).symm⟩
    · rw [others other own] at holds
      exact .inr ⟨own, holds⟩
  constructor
  · exact (List.nodup_cons.mp nodup).2
  · exact fun token' member => free_lt token' (List.mem_cons_of_mem _ member)
  · intro other token' holds
    obtain ⟨-, rfl⟩ | ⟨-, holds⟩ := back other token' holds
    · exact free_lt _ List.mem_cons_self
    · exact held_lt other token' holds
  · intro other token' holds member
    obtain ⟨-, rfl⟩ | ⟨-, holds⟩ := back other token' holds
    · exact notIn member
    · exact notFree other token' holds (List.mem_cons_of_mem _ member)
  · intro other other' token' holds holds'
    obtain ⟨rfl, rfl⟩ | ⟨own, holds⟩ := back other token' holds <;>
      obtain ⟨rfl, same⟩ | ⟨own', holds'⟩ := back other' _ holds'
    · rfl
    · exact absurd List.mem_cons_self (notFree _ _ holds')
    · subst same
      exact absurd List.mem_cons_self (notFree _ _ holds)
    · exact unique _ _ _ holds holds'
  · intro token' inside
    obtain member | ⟨other, holds⟩ := covered token' inside
    · obtain rfl | member := List.mem_cons.mp member
      · exact .inr ⟨holder, taken⟩
      · exact .inl member
    · refine .inr ⟨other, ?_⟩
      rw [others other (by rintro rfl; rw [nothing] at holds; cases holds)]
      exact holds

/-- A holder gives its token back. -/
theorem give (tokens : Tokens n free held) (holds : held holder = some token) (given : held' holder = none)
    (others : ∀ other, other ≠ holder → held' other = held other) : Tokens n (token :: free) held' := by
  obtain ⟨nodup, free_lt, held_lt, notFree, unique, covered⟩ := tokens
  have back (other : ι) (token' : Nat) (holds' : held' other = some token') :
      held other = some token' ∧ token' ≠ token := by
    by_cases own : other = holder
    · subst own
      rw [given] at holds'
      cases holds'
    · rw [others other own] at holds'
      refine ⟨holds', ?_⟩
      rintro rfl
      exact own (unique _ _ _ holds' holds)
  constructor
  · exact List.nodup_cons.mpr ⟨notFree holder token holds, nodup⟩
  · intro token' member
    obtain rfl | member := List.mem_cons.mp member
    · exact held_lt holder _ holds
    · exact free_lt token' member
  · exact fun other token' holds' => held_lt other token' (back other token' holds').1
  · intro other token' holds' member
    obtain ⟨holds', ne⟩ := back other token' holds'
    obtain rfl | member := List.mem_cons.mp member
    · exact ne rfl
    · exact notFree other token' holds' member
  · exact fun other other' token' holds' holds'' => unique _ _ _ (back _ _ holds').1 (back _ _ holds'').1
  · intro token' inside
    obtain member | ⟨other, holds'⟩ := covered token' inside
    · exact .inl (List.mem_cons_of_mem _ member)
    · by_cases own : other = holder
      · subst own
        rw [holds] at holds'
        cases holds'
        exact .inl List.mem_cons_self
      · exact .inr ⟨other, (others other own).trans holds'⟩

/-- While somebody holds a token, not all of them are free. -/
theorem length_lt (tokens : Tokens n free held) (holds : held holder = some token) : free.length < n := by
  have all : (token :: free).Nodup := List.nodup_cons.mpr ⟨tokens.notFree holder token holds, tokens.nodup⟩
  have inside : token :: free ⊆ List.range n := by
    intro other member
    rw [List.mem_range]
    obtain rfl | member := List.mem_cons.mp member
    · exact tokens.held_lt holder _ holds
    · exact tokens.free_lt other member
  have le := (all.subperm inside).length_le
  rw [List.length_cons, List.length_range] at le
  exact le

end Tokens

end GoldenGate
