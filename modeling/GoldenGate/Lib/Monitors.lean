import Mathlib.Data.Finset.Card
import Mathlib.Logic.Function.Basic

/-! # Monitors

Threads that share an object under a mutex, with conditions to wait on. From the moment a thread has the mutex
until it waits or returns, nobody else sees the object: that is a section. A thread that waits may be woken by a
broadcast, for no reason at all, or, if its call has a timeout, because the time is over; it goes on with another
section when it has the mutex again.
-/

namespace GoldenGate.Monitors

/-- How a section begins: with the call, or behind a wait. -/
inductive Entry (κ : Type) where
  | called
  | woken (condition : κ) (timedOut : Bool)
  deriving Repr, DecidableEq

/-- How a section ends. -/
inductive Outcome (κ ρ : Type) where
  | waits (condition : κ)
  | returns (result : ρ)
  deriving Repr, DecidableEq

/-- The object after a section, the conditions that were broadcast in it, and its end. -/
structure Section (σ κ ρ : Type) where
  shared : σ
  broadcast : List κ
  outcome : Outcome κ ρ
  deriving Repr, DecidableEq

/-- The sections of an object's calls, and which calls have a timeout. -/
structure Monitor (σ γ κ ρ : Type) where
  enter : σ → γ → Entry κ → Section σ κ ρ
  timed : γ → Bool

/-- What a thread is doing. -/
inductive Thread (γ κ : Type) where
  | idle
  | ready (call : γ) (entry : Entry κ)
  | asleep (call : γ) (condition : κ)
  deriving Repr, DecidableEq

/-- What the threads do with the object, and what they remember: which calls they may make, what they do between the
    calls, and what they make of a result. -/
structure Client (ι γ ρ α τ : Type) where
  calls : τ → ι → γ → Bool
  act : τ → ι → α → τ
  returned : τ → ι → γ → ρ → τ

/-- An object with its threads, and their memory. -/
structure State (ι σ γ κ τ : Type) where
  shared : σ
  threads : ι → Thread γ κ
  memory : τ

inductive Step (ι γ α : Type) where
  | act (thread : ι) (action : α)
  | call (thread : ι) (call : γ)
  | run (thread : ι)
  | wake (thread : ι) (timedOut : Bool)
  deriving Repr, DecidableEq

/-- The call that a thread is in. -/
def Thread.call {γ κ : Type} : Thread γ κ → Option γ
  | idle => none
  | ready call _ => some call
  | asleep call _ => some call

/-- Where a section leaves its own thread. -/
def Outcome.after {γ κ ρ : Type} (call : γ) : Outcome κ ρ → Thread γ κ
  | waits condition => .asleep call condition
  | returns _ => .idle

/-- What its thread remembers of a section. -/
def Outcome.remember {ι γ κ ρ α τ : Type} (client : Client ι γ ρ α τ) (memory : τ) (thread : ι) (call : γ) :
    Outcome κ ρ → τ
  | waits _ => memory
  | returns result => client.returned memory thread call result

/-! A part of an object, with its own mutex and conditions. -/

def Entry.within {κ κ' : Type} (part : κ → Option κ') : Entry κ → Entry κ'
  | called => called
  | woken condition timedOut =>
      match part condition with
      | some condition => woken condition timedOut
      | none => called

def Outcome.within {κ κ' ρ : Type} (whole : κ' → κ) : Outcome κ' ρ → Outcome κ ρ
  | waits condition => waits (whole condition)
  | returns result => returns result

def Section.within {σ σ' κ κ' ρ : Type} (put : σ' → σ) (whole : κ' → κ) (inner : Section σ' κ' ρ) : Section σ κ ρ :=
  ⟨put inner.shared, inner.broadcast.map whole, inner.outcome.within whole⟩

theorem Outcome.of_within_waits {κ κ' ρ : Type} {whole : κ' → κ} {outcome : Outcome κ' ρ} {condition : κ}
    (waits : outcome.within whole = .waits condition) :
    ∃ condition', outcome = .waits condition' ∧ condition = whole condition' := by
  cases outcome with
  | waits condition' =>
      cases waits
      exact ⟨condition', rfl, rfl⟩
  | returns result => cases waits

theorem Outcome.of_within_returns {κ κ' ρ : Type} {whole : κ' → κ} {outcome : Outcome κ' ρ} {result : ρ}
    (returns : outcome.within whole = .returns result) : outcome = .returns result := by
  cases outcome with
  | waits => cases returns
  | returns =>
      cases returns
      rfl

section Semantics

variable {ι σ γ κ ρ α τ : Type} [DecidableEq κ]

/-- A thread that sleeps on a condition that is broadcast wakes up. -/
def Thread.hear (broadcast : List κ) : Thread γ κ → Thread γ κ
  | idle => idle
  | ready call entry => ready call entry
  | asleep call condition => if condition ∈ broadcast then ready call (.woken condition false) else asleep call condition

variable [DecidableEq ι]

def State.set (state : State ι σ γ κ τ) (thread : ι) (next : Thread γ κ) : State ι σ γ κ τ :=
  { state with threads := Function.update state.threads thread next }

/-- A thread has the mutex for a section. -/
def State.enter (monitor : Monitor σ γ κ ρ) (client : Client ι γ ρ α τ) (state : State ι σ γ κ τ) (thread : ι) (call : γ)
    (entry : Entry κ) : State ι σ γ κ τ :=
  let entered := monitor.enter state.shared call entry
  ⟨entered.shared,
    Function.update (fun other => (state.threads other).hear entered.broadcast) thread (entered.outcome.after call),
    entered.outcome.remember client state.memory thread call⟩

/-- One step of a thread. A step that the thread is not ready for changes nothing. -/
def step (monitor : Monitor σ γ κ ρ) (client : Client ι γ ρ α τ) (state : State ι σ γ κ τ) :
    Step ι γ α → State ι σ γ κ τ
  | .act thread action =>
      match state.threads thread with
      | .idle => { state with memory := client.act state.memory thread action }
      | _ => state
  | .call thread call =>
      match state.threads thread with
      | .idle => if client.calls state.memory thread call then state.set thread (.ready call .called) else state
      | _ => state
  | .run thread =>
      match state.threads thread with
      | .ready call entry => state.enter monitor client thread call entry
      | _ => state
  | .wake thread timedOut =>
      match state.threads thread with
      | .asleep call condition =>
          if timedOut && !monitor.timed call then state
          else state.set thread (.ready call (.woken condition timedOut))
      | _ => state

def run (monitor : Monitor σ γ κ ρ) (client : Client ι γ ρ α τ) (state : State ι σ γ κ τ) (steps : List (Step ι γ α)) :
    State ι σ γ κ τ :=
  steps.foldl (step monitor client) state

/-- No thread has called yet. -/
def State.start (shared : σ) (memory : τ) : State ι σ γ κ τ := ⟨shared, fun _ => .idle, memory⟩

section Threads

variable (state : State ι σ γ κ τ) (monitor : Monitor σ γ κ ρ) (client : Client ι γ ρ α τ) (thread : ι) (call : γ)
  (entry : Entry κ)

omit [DecidableEq κ] in
@[simp] theorem State.threads_set_self (next : Thread γ κ) : (state.set thread next).threads thread = next :=
  Function.update_self ..

omit [DecidableEq κ] in
theorem State.threads_set_of_ne (next : Thread γ κ) {other : ι} (ne : other ≠ thread) :
    (state.set thread next).threads other = state.threads other := Function.update_of_ne ne ..

@[simp] theorem State.shared_enter :
    (state.enter monitor client thread call entry).shared = (monitor.enter state.shared call entry).shared := rfl

@[simp] theorem State.memory_enter :
    (state.enter monitor client thread call entry).memory =
      (monitor.enter state.shared call entry).outcome.remember client state.memory thread call := rfl

@[simp] theorem State.threads_enter_self :
    (state.enter monitor client thread call entry).threads thread =
      (monitor.enter state.shared call entry).outcome.after call := by
  simp only [State.enter, Function.update_self]

theorem State.threads_enter_of_ne {other : ι} (ne : other ≠ thread) :
    (state.enter monitor client thread call entry).threads other =
      (state.threads other).hear (monitor.enter state.shared call entry).broadcast := by
  simp only [State.enter, ne_eq, ne, not_false_eq_true, Function.update_of_ne]

end Threads

omit [DecidableEq ι] in
@[simp] theorem Thread.call_hear (broadcast : List κ) (thread : Thread γ κ) :
    (thread.hear broadcast).call = thread.call := by
  cases thread with
  | idle | ready => rfl
  | asleep call condition =>
      rw [Thread.hear]
      split <;> rfl

/-- What a thread does outside of the sections: it calls, or it wakes up. -/
inductive Moves (monitor : Monitor σ γ κ ρ) (calls : γ → Bool) : Thread γ κ → Thread γ κ → Prop where
  | calls (call : γ) (may : calls call = true) : Moves monitor calls .idle (.ready call .called)
  | wakes (call : γ) (condition : κ) {timedOut : Bool} (inTime : timedOut = true → monitor.timed call = true) :
      Moves monitor calls (.asleep call condition) (.ready call (.woken condition timedOut))

/-- The steps that change something. -/
inductive Goes (monitor : Monitor σ γ κ ρ) (client : Client ι γ ρ α τ) (state : State ι σ γ κ τ) :
    State ι σ γ κ τ → Prop where
  | acts (thread : ι) (action : α) (idle : state.threads thread = .idle) :
      Goes monitor client state { state with memory := client.act state.memory thread action }
  | moves (thread : ι) {moved : Thread γ κ}
      (goes : Moves monitor (client.calls state.memory thread) (state.threads thread) moved) :
      Goes monitor client state (state.set thread moved)
  | enters (thread : ι) {call : γ} {entry : Entry κ} (ready : state.threads thread = .ready call entry) :
      Goes monitor client state (state.enter monitor client thread call entry)

variable {monitor : Monitor σ γ κ ρ} {client : Client ι γ ρ α τ}

variable (monitor client) in
theorem step_goes (state : State ι σ γ κ τ) (next : Step ι γ α) :
    step monitor client state next = state ∨ Goes monitor client state (step monitor client state next) := by
  cases next with
  | act thread action =>
      cases is : state.threads thread with
      | idle =>
          simp only [step, is]
          exact .inr (.acts thread action is)
      | ready | asleep => exact .inl (by simp only [step, is])
  | call thread call =>
      cases is : state.threads thread with
      | idle =>
          by_cases may : client.calls state.memory thread call = true
          · simp only [step, is, if_pos may]
            refine .inr (.moves thread ?_)
            rw [is]
            exact .calls call may
          · exact .inl (by simp only [step, is, if_neg may])
      | ready | asleep => exact .inl (by simp only [step, is])
  | run thread =>
      cases is : state.threads thread with
      | ready call entry =>
          simp only [step, is]
          exact .inr (.enters thread is)
      | idle | asleep => exact .inl (by simp only [step, is])
  | wake thread timedOut =>
      cases is : state.threads thread with
      | asleep call condition =>
          by_cases early : (timedOut && !monitor.timed call) = true
          · exact .inl (by simp only [step, is, if_pos early])
          · simp only [step, is, if_neg early]
            refine .inr (.moves thread ?_)
            rw [is]
            apply Moves.wakes
            intro isOver
            simpa [isOver] using early
      | idle | ready => exact .inl (by simp only [step, is])

/-- A call may wait on a condition. -/
def Monitor.MayWait (monitor : Monitor σ γ κ ρ) (call : γ) (condition : κ) : Prop :=
  ∃ shared entry, (monitor.enter shared call entry).outcome = .waits condition

/-- A section begins behind a wait only if its call may wait there, and behind one that timed out only if its call has
    a timeout. -/
def Entry.Possible (monitor : Monitor σ γ κ ρ) (call : γ) (entry : Entry κ) : Prop :=
  ∀ condition timedOut, entry = .woken condition timedOut →
    monitor.MayWait call condition ∧ (timedOut = true → monitor.timed call = true)

def Thread.Possible (monitor : Monitor σ γ κ ρ) : Thread γ κ → Prop
  | idle => True
  | ready call entry => entry.Possible monitor call
  | asleep call condition => monitor.MayWait call condition

omit [DecidableEq κ] in
theorem Moves.possible {calls : γ → Bool} {thread moved : Thread γ κ} (goes : Moves monitor calls thread moved)
    (possible : thread.Possible monitor) : moved.Possible monitor := by
  cases goes with
  | calls call =>
      intro condition timedOut is
      cases is
  | wakes call condition inTime =>
      intro condition' timedOut is
      cases is
      exact ⟨possible, inTime⟩

theorem Thread.possible_hear {thread : Thread γ κ} (possible : thread.Possible monitor) (broadcast : List κ) :
    (thread.hear broadcast).Possible monitor := by
  cases thread with
  | idle => trivial
  | ready => exact possible
  | asleep call condition =>
      rw [Thread.hear]
      split
      next =>
        intro condition' timedOut is
        cases is
        refine ⟨possible, ?_⟩
        intro isOver
        cases isOver
      next => exact possible

omit [DecidableEq κ] in
/-- A section of a call to a part of the object begins where a section of that part's call can. -/
theorem Entry.Possible.within {σ' γ' κ' : Type} {part : Monitor σ' γ' κ' ρ} {call : γ} {call' : γ'} {get : σ → σ'}
    {put : σ → σ' → σ} {inside : κ → Option κ'} {whole : κ' → κ}
    (is : ∀ shared entry, monitor.enter shared call entry =
      (part.enter (get shared) call' (entry.within inside)).within (put shared) whole)
    (knows : ∀ condition, inside (whole condition) = some condition) (timed : monitor.timed call = part.timed call')
    {entry : Entry κ} (possible : entry.Possible monitor call) : (entry.within inside).Possible part call' := by
  cases entry with
  | called =>
      intro condition timedOut isWoken
      cases isWoken
  | woken condition timedOut =>
      obtain ⟨⟨shared, entry', waits⟩, inTime⟩ := possible condition timedOut rfl
      rw [is] at waits
      obtain ⟨condition', ends, rfl⟩ := Outcome.of_within_waits waits
      intro condition'' timedOut' isWoken
      rw [Entry.within, knows] at isWoken
      cases isWoken
      exact ⟨⟨_, _, ends⟩, timed ▸ inTime⟩

/-- What holds at the start, and is kept by each step, holds after each run. Each thread is where its call can be. -/
theorem run_invariant (invariant : State ι σ γ κ τ → Prop)
    (acts : ∀ state thread action, invariant state → state.threads thread = .idle →
      invariant { state with memory := client.act state.memory thread action })
    (moves : ∀ state thread moved, invariant state →
      Moves monitor (client.calls state.memory thread) (state.threads thread) moved → invariant (state.set thread moved))
    (enters : ∀ state thread call entry, invariant state → state.threads thread = .ready call entry →
      entry.Possible monitor call → invariant (state.enter monitor client thread call entry))
    {shared : σ} {memory : τ} (holds : invariant (State.start shared memory)) (steps : List (Step ι γ α)) :
    let state := run monitor client (State.start shared memory) steps
    (∀ thread, (state.threads thread).Possible monitor) ∧ invariant state := by
  suffices all : ∀ state : State ι σ γ κ τ, (∀ thread, (state.threads thread).Possible monitor) → invariant state →
      (∀ thread, ((run monitor client state steps).threads thread).Possible monitor) ∧
        invariant (run monitor client state steps) from all _ (fun _ => trivial) holds
  clear holds
  induction steps with
  | nil => exact fun _ possible holds => ⟨possible, holds⟩
  | cons next steps ih =>
      intro state possible holds
      rw [run, List.foldl_cons]
      obtain same | goes := step_goes monitor client state next
      · rw [same]
        exact ih state possible holds
      · generalize step monitor client state next = state' at goes
        cases goes with
        | acts thread action idle => exact ih _ possible (acts state thread action holds idle)
        | @moves thread moved goes =>
            refine ih _ ?_ (moves state thread moved holds goes)
            intro other
            by_cases own : other = thread
            · subst own
              rw [State.threads_set_self]
              exact goes.possible (possible other)
            · rw [State.threads_set_of_ne _ _ _ own]
              exact possible other
        | @enters thread call entry ready =>
            have fits := possible thread
            rw [ready] at fits
            refine ih _ ?_ (enters state thread call entry holds ready fits)
            intro other
            by_cases own : other = thread
            · subst own
              rw [State.threads_enter_self]
              cases ends : (monitor.enter state.shared call entry).outcome with
              | returns => trivial
              | waits condition => exact ⟨state.shared, entry, ends⟩
            · rw [State.threads_enter_of_ne _ _ _ _ _ _ own]
              exact Thread.possible_hear (possible other) _

end Semantics

variable {ι σ γ κ ρ α τ : Type}

/-! ## Who waits -/

/-- The condition that a thread waits on, from the beginning of the wait until it has the mutex again. -/
def Thread.waitsOn : Thread γ κ → Option κ
  | idle => none
  | ready _ .called => none
  | ready _ (.woken condition _) => some condition
  | asleep _ condition => some condition

def Entry.waitedOn : Entry κ → Option κ
  | called => none
  | woken condition _ => some condition

def Outcome.waitsOn : Outcome κ ρ → Option κ
  | waits condition => some condition
  | returns _ => none

theorem Thread.waitsOn_ready (call : γ) (entry : Entry κ) : (Thread.ready call entry).waitsOn = entry.waitedOn := by
  cases entry <;> rfl

theorem Outcome.waitsOn_after (call : γ) (outcome : Outcome κ ρ) :
    (outcome.after call).waitsOn = outcome.waitsOn := by
  cases outcome <;> rfl

section Waiting

variable [DecidableEq κ]

theorem Thread.waitsOn_hear (broadcast : List κ) (thread : Thread γ κ) :
    (thread.hear broadcast).waitsOn = thread.waitsOn := by
  cases thread with
  | idle => rfl
  | ready => rfl
  | asleep call condition =>
      rw [Thread.hear]
      split <;> rfl

/-- A sleeper that was not woken. -/
theorem Thread.asleep_of_hear {broadcast : List κ} {thread : Thread γ κ} {call : γ} {condition : κ}
    (sleeps : thread.hear broadcast = .asleep call condition) :
    thread = .asleep call condition ∧ condition ∉ broadcast := by
  cases thread with
  | idle => cases sleeps
  | ready => cases sleeps
  | asleep call' condition' =>
      rw [Thread.hear] at sleeps
      by_cases heard : condition' ∈ broadcast
      · rw [if_pos heard] at sleeps
        cases sleeps
      · rw [if_neg heard] at sleeps
        cases sleeps
        exact ⟨rfl, heard⟩

omit [DecidableEq κ] in
theorem Moves.waitsOn {monitor : Monitor σ γ κ ρ} {calls : γ → Bool} {thread moved : Thread γ κ}
    (goes : Moves monitor calls thread moved) :
    moved.waitsOn = thread.waitsOn := by
  cases goes <;> rfl

omit [DecidableEq κ] in
theorem Moves.awake {monitor : Monitor σ γ κ ρ} {calls : γ → Bool} {thread moved : Thread γ κ}
    (goes : Moves monitor calls thread moved)
    (call : γ) (condition : κ) : moved ≠ .asleep call condition := by
  intro sleeps
  cases goes <;> cases sleeps

/-- One, if it is that condition. -/
def one (condition : κ) (waits : Option κ) : Nat := if waits = some condition then 1 else 0

@[simp] theorem one_none (condition : κ) : one condition none = 0 := rfl

/-- The object counts the threads that wait on a condition. -/
def State.Counted (count : κ → σ → Nat) (state : State ι σ γ κ τ) : Prop :=
  ∀ condition, ∃ waiters : Finset ι,
    (∀ thread, thread ∈ waiters ↔ (state.threads thread).waitsOn = some condition) ∧
      waiters.card = count condition state.shared

/-- Each section counts its own thread out when it begins behind a wait, and in when it ends with one. -/
def Monitor.Counts (monitor : Monitor σ γ κ ρ) (count : κ → σ → Nat) : Prop :=
  ∀ shared call entry condition, entry.Possible monitor call → one condition entry.waitedOn ≤ count condition shared →
    count condition (monitor.enter shared call entry).shared + one condition entry.waitedOn =
      count condition shared + one condition (monitor.enter shared call entry).outcome.waitsOn

variable [DecidableEq ι]

/-- One thread begins or ends to wait. -/
theorem card_waiters {threads threads' : ι → Thread γ κ} {condition : κ} {waiters : Finset ι}
    (are : ∀ thread, thread ∈ waiters ↔ (threads thread).waitsOn = some condition) (changed : ι)
    (others : ∀ other, other ≠ changed → (threads' other).waitsOn = (threads other).waitsOn) :
    ∃ waiters' : Finset ι, (∀ thread, thread ∈ waiters' ↔ (threads' thread).waitsOn = some condition) ∧
      waiters'.card + one condition (threads changed).waitsOn =
        waiters.card + one condition (threads' changed).waitsOn := by
  unfold one
  by_cases waits : (threads' changed).waitsOn = some condition
  · refine ⟨insert changed waiters, ?_, ?_⟩
    · intro thread
      rw [Finset.mem_insert]
      by_cases same : thread = changed
      · subst same
        simp [waits]
      · simp [same, are, others thread same]
    · by_cases waited : (threads changed).waitsOn = some condition
      · rw [Finset.insert_eq_self.mpr ((are changed).mpr waited), if_pos waits, if_pos waited]
      · rw [Finset.card_insert_of_notMem (fun member => waited ((are changed).mp member)), if_pos waits, if_neg waited]
  · refine ⟨waiters.erase changed, ?_, ?_⟩
    · intro thread
      rw [Finset.mem_erase]
      by_cases same : thread = changed
      · subst same
        simp [waits]
      · simp [same, are, others thread same]
    · by_cases waited : (threads changed).waitsOn = some condition
      · rw [if_neg waits, if_pos waited, Finset.card_erase_add_one ((are changed).mpr waited), Nat.add_zero]
      · rw [Finset.erase_eq_of_notMem (fun member => waited ((are changed).mp member)), if_neg waits, if_neg waited]

variable {monitor : Monitor σ γ κ ρ} {client : Client ι γ ρ α τ} {count : κ → σ → Nat} {state : State ι σ γ κ τ}
  {thread : ι} {calls : γ → Bool}

omit [DecidableEq κ] in
theorem State.Counted.set (counted : state.Counted count) {moved : Thread γ κ}
    (goes : Moves monitor calls (state.threads thread) moved) : (state.set thread moved).Counted count := by
  intro condition
  obtain ⟨waiters, are, card⟩ := counted condition
  refine ⟨waiters, ?_, card⟩
  intro other
  rw [are other]
  by_cases is : other = thread
  · subst is
    rw [State.threads_set_self, goes.waitsOn]
  · rw [State.threads_set_of_ne state thread moved is]

theorem State.Counted.enter (counts : monitor.Counts count) (counted : state.Counted count) {call : γ} {entry : Entry κ}
    (is : state.threads thread = .ready call entry) (possible : entry.Possible monitor call) :
    (state.enter monitor client thread call entry).Counted count := by
  intro condition
  obtain ⟨waiters, are, card⟩ := counted condition
  have before : (state.threads thread).waitsOn = entry.waitedOn := by rw [is, Thread.waitsOn_ready]
  have inside : one condition entry.waitedOn ≤ count condition state.shared := by
    unfold one
    split
    next waited =>
      rw [← card]
      exact Finset.card_pos.mpr ⟨thread, (are thread).mpr (before.trans waited)⟩
    next => exact Nat.zero_le _
  have moves := counts state.shared call entry condition possible inside
  have others : ∀ other, other ≠ thread →
      ((state.enter monitor client thread call entry).threads other).waitsOn = (state.threads other).waitsOn := by
    intro other isOther
    rw [State.threads_enter_of_ne _ _ _ _ _ _ isOther, Thread.waitsOn_hear]
  have own : ((state.enter monitor client thread call entry).threads thread).waitsOn =
      (monitor.enter state.shared call entry).outcome.waitsOn := by
    rw [State.threads_enter_self, Outcome.waitsOn_after]
  obtain ⟨waiters', are', card'⟩ := card_waiters are thread others
  refine ⟨waiters', are', ?_⟩
  rw [before, own] at card'
  rw [State.shared_enter]
  omega

omit [DecidableEq κ] [DecidableEq ι] in
theorem State.counted_start (shared : σ) (memory : τ) (none_ : ∀ condition, count condition shared = 0) :
    (State.start shared memory : State ι σ γ κ τ).Counted count := by
  intro condition
  refine ⟨∅, ?_, by rw [Finset.card_empty]; exact (none_ condition).symm⟩
  intro thread
  simp [State.start, Thread.waitsOn]

/-! ## Nobody sleeps for nothing -/

/-- A thread waits only on a condition that blocks it, and a section that unblocks a condition tells those who
    are counted as waiting on it. -/
structure Monitor.Tells (monitor : Monitor σ γ κ ρ) (count : κ → σ → Nat) (blocked : κ → σ → Prop) : Prop where
  waits : ∀ shared call entry condition, entry.Possible monitor call →
    (monitor.enter shared call entry).outcome = .waits condition → blocked condition (monitor.enter shared call entry).shared
  tells : ∀ shared call entry condition, entry.Possible monitor call → blocked condition shared →
    blocked condition (monitor.enter shared call entry).shared ∨
      condition ∈ (monitor.enter shared call entry).broadcast ∨
        count condition (monitor.enter shared call entry).shared = 0

/-- Each thread that sleeps is blocked. -/
def State.Justified (blocked : κ → σ → Prop) (state : State ι σ γ κ τ) : Prop :=
  ∀ thread call condition, state.threads thread = .asleep call condition → blocked condition state.shared

variable {blocked : κ → σ → Prop}

omit [DecidableEq κ] in
theorem State.Justified.set (justified : state.Justified blocked) {moved : Thread γ κ}
    (goes : Moves monitor calls (state.threads thread) moved) : (state.set thread moved).Justified blocked := by
  intro other call condition sleeps
  by_cases is : other = thread
  · subst is
    rw [State.threads_set_self] at sleeps
    exact absurd sleeps (goes.awake call condition)
  · rw [State.threads_set_of_ne _ _ _ is] at sleeps
    exact justified other call condition sleeps

theorem State.Justified.enter (counts : monitor.Counts count) (tells : monitor.Tells count blocked)
    (counted : state.Counted count) (justified : state.Justified blocked) {call : γ} {entry : Entry κ}
    (is : state.threads thread = .ready call entry) (possible : entry.Possible monitor call) :
    (state.enter monitor client thread call entry).Justified blocked := by
  intro other call' condition sleeps
  obtain ⟨waiters, are, card⟩ := counted.enter counts is possible condition
  have waiting := (are other).mpr (by rw [sleeps]; rfl)
  by_cases same : other = thread
  · subst same
    rw [State.threads_enter_self] at sleeps
    cases ends : (monitor.enter state.shared call entry).outcome with
    | returns result =>
        rw [ends] at sleeps
        cases sleeps
    | waits condition' =>
        rw [ends] at sleeps
        cases sleeps
        exact tells.waits state.shared call entry condition possible ends
  · rw [State.threads_enter_of_ne _ _ _ _ _ _ same] at sleeps
    obtain ⟨slept, notHeard⟩ := Thread.asleep_of_hear sleeps
    obtain still | heard | nobody := tells.tells state.shared call entry condition possible
      (justified other call' condition slept)
    · exact still
    · exact absurd heard notHeard
    · rw [State.shared_enter, nobody, Finset.card_eq_zero] at card
      rw [card] at waiting
      exact absurd waiting (Finset.notMem_empty other)

/-- In every state of a run, the waiting threads are counted, and each thread that sleeps is blocked on a condition
    that its call may wait on. -/
theorem run_justified (counts : monitor.Counts count) (tells : monitor.Tells count blocked) {shared : σ} {memory : τ}
    (none_ : ∀ condition, count condition shared = 0) (steps : List (Step ι γ α)) :
    let state := run monitor client (State.start shared memory) steps
    (∀ thread, (state.threads thread).Possible monitor) ∧ state.Counted count ∧ state.Justified blocked := by
  apply run_invariant fun state => state.Counted count ∧ state.Justified blocked
  · exact fun state thread action holds _ => holds
  · intro state thread moved holds goes
    exact ⟨holds.1.set goes, holds.2.set goes⟩
  · intro state thread call entry holds is possible
    exact ⟨holds.1.enter counts is possible, holds.2.enter counts tells holds.1 is possible⟩
  · refine ⟨State.counted_start shared memory none_, ?_⟩
    intro thread call condition sleeps
    cases sleeps

end Waiting

/-! ## The history -/

/-- A call that has returned. -/
structure Return (ι γ ρ : Type) where
  thread : ι
  call : γ
  result : ρ
  deriving Repr, DecidableEq

/-- Any calls, and a memory of all that have returned. -/
def Client.history : Client ι γ ρ Empty (List (Return ι γ ρ)) where
  calls _ _ _ := true
  act history _ _ := history
  returned history thread call result := history ++ [⟨thread, call, result⟩]

/-- The calls of a history take one effect after the other. -/
inductive Legal {β : Type} (effect : β → γ → ρ → β → Prop) (first : β) : List (Return ι γ ρ) → β → Prop where
  | nil : Legal effect first [] first
  | snoc {history : List (Return ι γ ρ)} {value next : β} {return_ : Return ι γ ρ}
      (legal : Legal effect first history value) (takes : effect value return_.call return_.result next) :
      Legal effect first (history ++ [return_]) next

/-- A section that returns takes the effect of its call, at once; one that waits takes none. -/
structure Monitor.Realizes {β : Type} (monitor : Monitor σ γ κ ρ) (value : σ → β)
    (effect : β → γ → ρ → β → Prop) : Prop where
  waits : ∀ shared call entry condition, entry.Possible monitor call →
    (monitor.enter shared call entry).outcome = .waits condition → value (monitor.enter shared call entry).shared = value shared
  returns : ∀ shared call entry result, entry.Possible monitor call →
    (monitor.enter shared call entry).outcome = .returns result →
      effect (value shared) call result (value (monitor.enter shared call entry).shared)

section History

variable [DecidableEq κ] [DecidableEq ι] {monitor : Monitor σ γ κ ρ}

/-- Whatever the threads do, the calls that have returned took effect one after the other, in the order in which they
    returned. -/
theorem run_legal {β : Type} {value : σ → β} {effect : β → γ → ρ → β → Prop} (realizes : monitor.Realizes value effect)
    (shared : σ) (steps : List (Step ι γ Empty)) :
    let state := run monitor .history (State.start shared []) steps
    Legal effect (value shared) state.memory (value state.shared) := by
  refine (run_invariant (fun state => Legal effect (value shared) state.memory (value state.shared)) ?_ ?_ ?_ ?_ steps).2
  · exact fun _ _ _ legal _ => legal
  · exact fun _ _ _ legal _ => legal
  · intro state thread call entry legal _ possible
    rw [State.memory_enter, State.shared_enter]
    cases ends : (monitor.enter state.shared call entry).outcome with
    | waits condition =>
        rw [Outcome.remember, realizes.waits _ _ _ _ possible ends]
        exact legal
    | returns result => exact legal.snoc (realizes.returns _ _ _ _ possible ends)
  · exact .nil

end History

end GoldenGate.Monitors
