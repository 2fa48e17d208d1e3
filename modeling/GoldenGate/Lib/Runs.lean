import Mathlib.Data.List.Basic

/-! # Runs of steps that may fail

A system is a step function, whose steps may fail. A run follows a rule if each of its steps is of some kind
in the state that it is taken in. What each such step keeps, and does not fail from, holds after the run. Two results go along
when both are the same failure, or both are related.
-/

namespace GoldenGate.Runs

variable {ε σ τ : Type} (step : σ → τ → Except ε σ)

/-- Each step of a run is of some kind in its state. -/
def Follows (kind : σ → τ → Prop) : σ → List τ → Prop
  | _, [] => True
  | state, first :: steps => kind state first ∧ ∀ state', step state first = .ok state' → Follows kind state' steps

variable {step} {kind : σ → τ → Prop} {state : σ}

theorem Follows.cons {state' : σ} {first : τ} {steps : List τ} (goes : step state first = .ok state')
    (is : kind state first) (follows : Follows step kind state' steps) : Follows step kind state (first :: steps) := by
  refine ⟨is, fun after isAfter => ?_⟩
  rw [goes] at isAfter
  cases isAfter
  exact follows

/-- What steps of a kind keep holds after a run of them, which goes through. -/
theorem Follows.run {invariant : σ → Prop}
    (keeps : ∀ state first, invariant state → kind state first →
      ∃ state', step state first = .ok state' ∧ invariant state')
    (holds : invariant state) {steps : List τ} (follows : Follows step kind state steps) :
    ∃ state', steps.foldlM step state = .ok state' ∧ invariant state' := by
  induction steps generalizing state with
  | nil => exact ⟨state, rfl, holds⟩
  | cons first steps ih =>
      obtain ⟨is, follows⟩ := follows
      obtain ⟨between, goes, holds'⟩ := keeps state first holds is
      obtain ⟨state', runs, holds''⟩ := ih holds' (follows between goes)
      refine ⟨state', ?_, holds''⟩
      rw [List.foldlM_cons, goes]
      exact runs

/-- Likewise where the kind is one of steps alone. -/
theorem run_goes {kind : τ → Prop} {invariant : σ → Prop}
    (keeps : ∀ state first, invariant state → kind first → ∃ state', step state first = .ok state' ∧ invariant state')
    (holds : invariant state) {steps : List τ} (all : ∀ first ∈ steps, kind first) :
    ∃ state', steps.foldlM step state = .ok state' ∧ invariant state' := by
  refine @Follows.run _ _ _ step (fun _ => kind) state invariant keeps holds steps ?_
  clear holds
  induction steps generalizing state with
  | nil => trivial
  | cons first steps ih =>
      exact ⟨all first List.mem_cons_self, fun _ _ => ih fun other member => all other (List.mem_cons_of_mem _ member)⟩

/-- A run that goes through leaves what its steps keep when they do. -/
theorem run_keeps {kind : τ → Prop} {invariant : σ → Prop} {last : σ}
    (keeps : ∀ state first state', invariant state → kind first → step state first = .ok state' → invariant state')
    (holds : invariant state) {steps : List τ} (all : ∀ first ∈ steps, kind first)
    (runs : steps.foldlM step state = .ok last) : invariant last := by
  induction steps generalizing state with
  | nil => exact Except.ok.inj runs ▸ holds
  | cons first steps ih =>
      rw [List.foldlM_cons] at runs
      cases goes : step state first with
      | error error => simp [goes, bind, Except.bind] at runs
      | ok between =>
          rw [goes] at runs
          exact ih (keeps state first between holds (all first List.mem_cons_self) goes)
            (fun other member => all other (List.mem_cons_of_mem _ member)) runs

/-- Where each step is good under a condition, and good steps keep the invariant, a run is good under the condition. -/
theorem Follows.iff {comes good condition : σ → τ → Prop} {invariant : σ → Prop}
    (decides : ∀ state first, invariant state → comes state first → (good state first ↔ condition state first))
    (keeps : ∀ state first state', invariant state → comes state first → good state first →
      step state first = .ok state' → invariant state')
    (holds : invariant state) {steps : List τ} (follows : Follows step comes state steps) :
    Follows step good state steps ↔ Follows step condition state steps := by
  induction steps generalizing state with
  | nil => exact Iff.rfl
  | cons first steps ih =>
      obtain ⟨first_, follows⟩ := follows
      have rest (is : good state first) (state' : σ) (goes : step state first = .ok state') :=
        ih (keeps state first state' holds first_ is goes) (follows state' goes)
      constructor
      · intro good
        obtain ⟨is, good⟩ := good
        exact ⟨(decides state first holds first_).mp is, fun state' goes => (rest is state' goes).mp (good state' goes)⟩
      · intro meets
        obtain ⟨met, meets⟩ := meets
        have is := (decides state first holds first_).mpr met
        exact ⟨is, fun state' goes => (rest is state' goes).mpr (meets state' goes)⟩

/-! ## Two runs -/

section Along

variable {α α' β β' γ : Type} {related : α → α' → Prop} {related' : β → β' → Prop}

/-- Two results go along: both are an error, the same one, or they are related. -/
inductive Along (related : α → α' → Prop) : Except ε α → Except ε α' → Prop where
  | error (error : ε) : Along related (.error error) (.error error)
  | ok {result : α} {result' : α'} (are : related result result') : Along related (.ok result) (.ok result')

theorem Along.bind {first : Except ε α} {first' : Except ε α'} {next : α → Except ε β} {next' : α' → Except ε β'}
    (along : Along related first first')
    (then_ : ∀ result result', related result result' → Along related' (next result) (next' result')) :
    Along related' (first >>= next) (first' >>= next') := by
  cases along with
  | error error => exact .error error
  | ok are => exact then_ _ _ are

theorem Along.ite {condition : Prop} [Decidable condition] {yes no : Except ε α} {yes' no' : Except ε α'}
    (then_ : condition → Along related yes yes') (else_ : ¬condition → Along related no no') :
    Along related (if condition then yes else no) (if condition then yes' else no') := by
  split
  case isTrue is => exact then_ is
  case isFalse isNot => exact else_ isNot

theorem Along.eq {first second : Except ε α} (along : Along Eq first second) : first = second := by
  cases along with
  | error error => rfl
  | ok are => rw [are]

/-- Both begin with the same. -/
theorem Along.after (first : Except ε γ) {next : γ → Except ε β} {next' : γ → Except ε β'}
    (then_ : ∀ result, Along related' (next result) (next' result)) :
    Along related' (first >>= next) (first >>= next') := by
  cases first with
  | error error => exact .error error
  | ok result => exact then_ result

end Along

end GoldenGate.Runs
