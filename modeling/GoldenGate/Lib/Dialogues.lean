import GoldenGate.Lib.Memory

/-! # Dialogues

A library that calls back: its functions ask their host for one thing after the other before they are done.
What such a function is does not matter: what every answer of the host keeps holds when it is done. Next to that
are computations that come to a good end unless they run out of turns.
-/

namespace GoldenGate.Dialogues

open Memory

/-- A computation that asks its host before it has its result. -/
inductive Dialogue (Q : Type) (R : Q → Type) (α : Type) where
  | done (result : α)
  | ask (question : Q) (next : R question → Dialogue Q R α)

namespace Dialogue

variable {ε σ Q α : Type} {R : Q → Type}

/-- The host answers every question. -/
def talk (answer : (question : Q) → σ → Except ε (σ × R question)) : Dialogue Q R α → σ → Except ε (σ × α)
  | done result, host => .ok (host, result)
  | ask question next, host => do
      let (host, reply) ← answer question host
      talk answer (next reply) host

/-- A host that answers every question, and keeps something with each answer, has kept it in the end. -/
theorem talk_keeps {answer : (question : Q) → σ → Except ε (σ × R question)} {holds : σ → Prop}
    (keeps : ∀ question host, holds host → ∃ host' reply, answer question host = .ok (host', reply) ∧ holds host')
    (dialogue : Dialogue Q R α) {host : σ} (start : holds host) :
    ∃ host' result, dialogue.talk answer host = .ok (host', result) ∧ holds host' := by
  induction dialogue generalizing host with
  | done result => exact ⟨host, result, rfl, start⟩
  | ask question next ih =>
      obtain ⟨between, reply, answers, holds'⟩ := keeps question host start
      obtain ⟨host', result, talks, holds''⟩ := ih reply holds'
      refine ⟨host', result, ?_, holds''⟩
      unfold talk
      rw [answers]
      exact talks

end Dialogue

/-! ## Unless the turns run out -/

/-- The computation comes to something good, or it needs more turns. -/
def Safely {α : Type} (good : α → Prop) : Access α → Prop
  | .ok result => good result
  | .error fault => fault = .diverges

namespace Safely

variable {α β : Type} {good better : α → Prop} {goodEnd : β → Prop} {computation : Access α}

theorem ok {result : α} (is : good result) : Safely good (.ok result) := is

theorem diverges : Safely good (.error .diverges) := rfl

theorem mono (safely : Safely better computation) (weaker : ∀ result, better result → good result) : Safely good computation := by
  cases computation with
  | ok result => exact weaker result safely
  | error fault => exact safely

theorem andThen {next : α → Access β} (safely : Safely good computation)
    (goesOn : ∀ result, good result → Safely goodEnd (next result)) : Safely goodEnd (computation >>= next) := by
  cases computation with
  | ok result => exact goesOn result safely
  | error fault => exact safely

/-- What every step keeps, a run keeps. -/
theorem foldlM {step : α → β → Access α} (keeps : ∀ state next, good state → Safely good (step state next)) {state : α}
    (start : good state) (steps : List β) : Safely good (steps.foldlM step state) := by
  induction steps generalizing state with
  | nil => exact start
  | cons first steps ih => exact (keeps state first start).andThen fun between holds => ih holds

end Safely

end GoldenGate.Dialogues
