import GoldenGate.Common.Result
import GoldenGate.Lib.Monitors
import Mathlib.Data.List.Infix

/-! # Shared queues

The embedding of `gg_posix_shared_queue.c`: a queue of bounded length that any thread may put items in and take items
from. A section of the code under the mutex is one step. Whatever the threads do, and whenever they are woken up, the
queue is a bounded queue: items come out once, and in the order in which they went in. No thread sleeps while it
could go on.
-/

namespace GoldenGate

open Monitors

/-- `GG_TIMEOUT_INFINITE`. -/
def timeoutInfinite : UInt64 := 0xFFFFFFFFFFFFFFFF

/-- `GG_SharedQueue`, without the mutex and the conditions. The item count is the length of the list. -/
structure SharedQueue (α : Type) where
  maxItems : Nat
  pushersWaitingCount : Nat
  poppersWaitingCount : Nat
  items : List α
  deriving Repr, DecidableEq

namespace SharedQueue

/-- `can_push_condition` and `can_pop_condition`. -/
inductive Condition where
  | canPush
  | canPop
  deriving Repr, DecidableEq

inductive Call (α : Type) where
  | enqueue (item : α) (timeout : UInt64)
  | dequeue (timeout : UInt64)
  deriving Repr, DecidableEq

variable {α : Type}

def Call.timeout : Call α → UInt64
  | enqueue _ timeout => timeout
  | dequeue timeout => timeout

/-- The result of a call, with the item if it was a call for one. -/
abbrev Result (α : Type) := Except Error (Option α)

/-- `GG_SharedQueue_Create`. -/
def create (maxItems : Nat) : SharedQueue α := ⟨maxItems, 0, 0, []⟩

/-- The counter of the source, which does not wrap: a queue without a limit is taken to have fewer than 2^32 items. -/
def itemCount (self : SharedQueue α) : Nat := self.items.length

/-- `GG_SharedQueue_Stuff`. -/
def stuff (self : SharedQueue α) (item : α) : SharedQueue α × Except Error Unit :=
  if self.maxItems ≠ 0 ∧ self.itemCount = self.maxItems then (self, .error .notEnoughSpace)
  else ({ self with items := self.items ++ [item] }, .ok ())

/-- The end of `GG_SharedQueue_Enqueue`: add the item, and wake up any thread that may be waiting to pop. -/
def push (self : SharedQueue α) (item : α) : Section (SharedQueue α) Condition (Result α) :=
  ⟨{ self with items := self.items ++ [item] }, if self.poppersWaitingCount ≠ 0 then [.canPop] else [],
    .returns (.ok none)⟩

/-- The head of the loop in `GG_SharedQueue_Enqueue`. -/
def waitToPush (self : SharedQueue α) (item : α) : Section (SharedQueue α) Condition (Result α) :=
  if self.maxItems ≠ 0 ∧ self.itemCount ≥ self.maxItems then
    ⟨{ self with pushersWaitingCount := self.pushersWaitingCount + 1 }, [], .waits .canPush⟩
  else self.push item

/-- `GG_SharedQueue_Enqueue`, from the lock or from the end of a wait. -/
def enqueue (self : SharedQueue α) (item : α) : Entry Condition → Section (SharedQueue α) Condition (Result α)
  | .called => self.waitToPush item
  | .woken _ timedOut =>
      let self := { self with pushersWaitingCount := self.pushersWaitingCount - 1 }
      if timedOut then ⟨self, [], .returns (.error .timeout)⟩ else self.waitToPush item

/-- The end of `GG_SharedQueue_Dequeue`: take an item if there is one, and wake up any thread that may be waiting to
    push. -/
def pop (self : SharedQueue α) : Section (SharedQueue α) Condition (Result α) :=
  match self.items with
  | item :: items =>
      ⟨{ self with items := items }, if self.maxItems ≠ 0 ∧ self.pushersWaitingCount ≠ 0 then [.canPush] else [],
        .returns (.ok (some item))⟩
  | [] => ⟨self, [], .returns (.error .timeout)⟩

/-- The head of the loop in `GG_SharedQueue_Dequeue`. -/
def waitToPop (self : SharedQueue α) : Section (SharedQueue α) Condition (Result α) :=
  if self.itemCount = 0 then
    ⟨{ self with poppersWaitingCount := self.poppersWaitingCount + 1 }, [], .waits .canPop⟩
  else self.pop

/-- `GG_SharedQueue_Dequeue`, from the lock or from the end of a wait. -/
def dequeue (self : SharedQueue α) (timeout : UInt64) :
    Entry Condition → Section (SharedQueue α) Condition (Result α)
  | .called => if timeout ≠ 0 then self.waitToPop else self.pop
  | .woken _ timedOut =>
      let self := { self with poppersWaitingCount := self.poppersWaitingCount - 1 }
      if timedOut then self.pop else self.waitToPop

/-- The calls of a queue. Only a wait with a timeout ends because the time is over. -/
def monitor (α : Type) : Monitor (SharedQueue α) (Call α) Condition (Result α) where
  enter
    | self, .enqueue item _, entry => self.enqueue item entry
    | self, .dequeue timeout, entry => self.dequeue timeout entry
  timed call := call.timeout ≠ timeoutInfinite

/-! ## What the queue is for -/

/-- A queue with a bound on its length, or with none if the bound is zero. -/
structure Bounded (α : Type) where
  maxItems : Nat
  items : List α
  deriving Repr, DecidableEq

def value (self : SharedQueue α) : Bounded α := ⟨self.maxItems, self.items⟩

/-- What a call with some result does to the items. Only a call with a timeout may come to nothing, and one for an item
    only when there is none. -/
inductive Effect : Bounded α → Call α → Result α → Bounded α → Prop where
  | enqueued {maxItems : Nat} {items : List α} (item : α) (timeout : UInt64)
      (room : maxItems = 0 ∨ items.length < maxItems) :
      Effect ⟨maxItems, items⟩ (.enqueue item timeout) (.ok none) ⟨maxItems, items ++ [item]⟩
  | notEnqueued (queue : Bounded α) (item : α) {timeout : UInt64} (finite : timeout ≠ timeoutInfinite) :
      Effect queue (.enqueue item timeout) (.error .timeout) queue
  | dequeued (maxItems : Nat) (item : α) (items : List α) (timeout : UInt64) :
      Effect ⟨maxItems, item :: items⟩ (.dequeue timeout) (.ok (some item)) ⟨maxItems, items⟩
  | notDequeued (maxItems : Nat) {timeout : UInt64} (finite : timeout ≠ timeoutInfinite) :
      Effect ⟨maxItems, []⟩ (.dequeue timeout) (.error .timeout) ⟨maxItems, []⟩

/-- A thread that waits for this cannot go on. -/
def Blocked : Condition → SharedQueue α → Prop
  | .canPush, self => self.maxItems ≠ 0 ∧ self.itemCount ≥ self.maxItems
  | .canPop, self => self.itemCount = 0

/-- The threads that wait, as the queue counts them. -/
def waitingCount : Condition → SharedQueue α → Nat
  | .canPush, self => self.pushersWaitingCount
  | .canPop, self => self.poppersWaitingCount

/-! ## Sections -/

/-- What `push` and `pop` come to, after which nobody waits. -/
structure Ends (queue : SharedQueue α) (call : Call α) (section_ : Section (SharedQueue α) Condition (Result α)) : Prop where
  returns : ∃ result, section_.outcome = .returns result ∧ Effect queue.value call result section_.shared.value
  counts : ∀ condition, waitingCount condition section_.shared = waitingCount condition queue
  tells : ∀ condition, Blocked condition queue → Blocked condition section_.shared ∨ condition ∈ section_.broadcast ∨
    waitingCount condition section_.shared = 0

theorem push_ends (self : SharedQueue α) (item : α) (timeout : UInt64)
    (room : ¬(self.maxItems ≠ 0 ∧ self.itemCount ≥ self.maxItems)) :
    Ends self (.enqueue item timeout) (self.push item) := by
  refine ⟨⟨_, rfl, ?_⟩, ?_, ?_⟩
  · apply Effect.enqueued
    unfold itemCount at room
    omega
  · intro condition
    cases condition <;> rfl
  · intro condition blocked
    cases condition with
    | canPush => exact absurd blocked room
    | canPop =>
        by_cases waiting : self.poppersWaitingCount = 0
        · exact .inr (.inr waiting)
        · refine .inr (.inl ?_)
          rw [push, if_pos waiting]
          exact List.mem_singleton_self _

theorem pop_ends (self : SharedQueue α) (timeout : UInt64) (finite : self.items = [] → timeout ≠ timeoutInfinite) :
    Ends self (.dequeue timeout) self.pop := by
  obtain ⟨maxItems, pushers, poppers, items⟩ := self
  cases items with
  | nil =>
      refine ⟨⟨_, rfl, .notDequeued maxItems (finite rfl)⟩, ?_, ?_⟩
      · exact fun _ => rfl
      · exact fun _ blocked => .inl blocked
  | cons item items =>
      refine ⟨⟨_, rfl, .dequeued maxItems item items timeout⟩, ?_, ?_⟩
      · intro condition
        cases condition <;> rfl
      · intro condition blocked
        cases condition with
        | canPop => cases blocked
        | canPush =>
            by_cases waiting : pushers = 0
            · exact .inr (.inr waiting)
            · refine .inr (.inl ?_)
              rw [pop, if_pos ⟨blocked.1, waiting⟩]
              exact List.mem_singleton_self _

/-- What the head of a loop comes to: a wait for a condition that blocks the thread, or the end. -/
def Turns (self : SharedQueue α) (call : Call α) (condition : Condition)
    (section_ : Section (SharedQueue α) Condition (Result α)) : Prop :=
  Ends self call section_ ∨
    (section_.outcome = .waits condition ∧ section_.shared.value = self.value ∧ section_.broadcast = [] ∧
      Blocked condition self ∧ ∀ other, waitingCount other section_.shared =
        waitingCount other self + one other (some condition))

theorem waitToPush_turns (self : SharedQueue α) (item : α) (timeout : UInt64) :
    Turns self (.enqueue item timeout) .canPush (self.waitToPush item) := by
  unfold waitToPush
  by_cases full : self.maxItems ≠ 0 ∧ self.itemCount ≥ self.maxItems
  · rw [if_pos full]
    refine .inr ⟨rfl, rfl, rfl, full, ?_⟩
    intro other
    cases other <;> rfl
  · rw [if_neg full]
    exact .inl (push_ends self item timeout full)

theorem waitToPop_turns (self : SharedQueue α) (timeout : UInt64) :
    Turns self (.dequeue timeout) .canPop self.waitToPop := by
  unfold waitToPop
  by_cases empty : self.itemCount = 0
  · rw [if_pos empty]
    refine .inr ⟨rfl, rfl, rfl, empty, ?_⟩
    intro other
    cases other <;> rfl
  · rw [if_neg empty]
    refine .inl (pop_ends self timeout ?_)
    intro none_
    exact absurd (List.length_eq_zero_iff.mpr none_) empty

/-- The condition of a call. -/
def Call.condition : Call α → Condition
  | enqueue _ _ => .canPush
  | dequeue _ => .canPop

/-- One thread less is counted. -/
def counted (self : SharedQueue α) : Entry Condition → SharedQueue α
  | .called => self
  | .woken .canPush _ => { self with pushersWaitingCount := self.pushersWaitingCount - 1 }
  | .woken .canPop _ => { self with poppersWaitingCount := self.poppersWaitingCount - 1 }

theorem value_counted (self : SharedQueue α) (entry : Entry Condition) : (self.counted entry).value = self.value := by
  cases entry with
  | called => rfl
  | woken condition => cases condition <;> rfl

theorem blocked_congr {self other : SharedQueue α} (same : self.value = other.value) (condition : Condition) :
    Blocked condition self ↔ Blocked condition other := by
  obtain ⟨maxItems, items⟩ := Bounded.mk.inj same
  cases condition with
  | canPush => rw [Blocked, Blocked, itemCount, itemCount, maxItems, items]
  | canPop => rw [Blocked, Blocked, itemCount, itemCount, items]

theorem waitingCount_counted {self : SharedQueue α} {entry : Entry Condition} {condition : Condition}
    (inside : one condition entry.waitedOn ≤ waitingCount condition self) :
    waitingCount condition (self.counted entry) + one condition entry.waitedOn = waitingCount condition self := by
  cases entry with
  | called => rfl
  | woken condition' =>
      cases condition <;> cases condition'
      case canPush.canPush => exact Nat.sub_add_cancel inside
      case canPop.canPop => exact Nat.sub_add_cancel inside
      case canPush.canPop => rfl
      case canPop.canPush => rfl

/-- A call waits for one condition only. -/
theorem condition_of_waits {self : SharedQueue α} {call : Call α} {entry : Entry Condition} {condition : Condition}
    (waits : ((monitor α).enter self call entry).outcome = .waits condition) : condition = call.condition := by
  have pushes (self : SharedQueue α) (item : α) (is : (self.waitToPush item).outcome = .waits condition) :
      condition = .canPush := by
    obtain ends | turns := waitToPush_turns self item 0
    · obtain ⟨result, returns, -⟩ := ends.returns
      rw [returns] at is
      cases is
    · rw [turns.1] at is
      cases is
      rfl
  have pops (self : SharedQueue α) (section_ : Section (SharedQueue α) Condition (Result α))
      (turns : Turns self (.dequeue 0) .canPop section_) (is : section_.outcome = .waits condition) :
      condition = .canPop := by
    obtain ends | turns := turns
    · obtain ⟨result, returns, -⟩ := ends.returns
      rw [returns] at is
      cases is
    · rw [turns.1] at is
      cases is
      rfl
  have pop (self : SharedQueue α) : Turns self (.dequeue 0) .canPop self.pop :=
    .inl (pop_ends self 0 (by intro _ is; cases is))
  cases call with
  | enqueue item timeout =>
      cases entry with
      | called => exact pushes self item waits
      | woken condition' timedOut =>
          cases timedOut with
          | true => cases waits
          | false => exact pushes _ item waits
  | dequeue timeout =>
      cases entry with
      | called =>
          change (if timeout ≠ 0 then self.waitToPop else self.pop).outcome = _ at waits
          by_cases blocks : timeout ≠ 0
          · rw [if_pos blocks] at waits
            exact pops self _ (waitToPop_turns self 0) waits
          · rw [if_neg blocks] at waits
            exact pops self _ (pop self) waits
      | woken condition' timedOut =>
          cases timedOut with
          | true => exact pops _ _ (pop _) waits
          | false => exact pops _ _ (waitToPop_turns _ 0) waits

/-- Each section, from where it begins. -/
theorem enter_turns (self : SharedQueue α) {call : Call α} {entry : Entry Condition}
    (possible : entry.Possible (monitor α) call) :
    Turns (self.counted entry) call call.condition ((monitor α).enter self call entry) := by
  cases entry with
  | called =>
      cases call with
      | enqueue item timeout => exact waitToPush_turns self item timeout
      | dequeue timeout =>
          change Turns self _ _ (if timeout ≠ 0 then self.waitToPop else self.pop)
          by_cases blocks : timeout ≠ 0
          · rw [if_pos blocks]
            exact waitToPop_turns self timeout
          · rw [if_neg blocks]
            obtain rfl : timeout = 0 := not_not.mp blocks
            exact .inl (pop_ends self 0 (by intro _ is; cases is))
  | woken condition timedOut =>
      obtain ⟨⟨shared, entry', waits⟩, finite⟩ := possible condition timedOut rfl
      obtain rfl := condition_of_waits waits
      cases call with
      | enqueue item timeout =>
          cases timedOut with
          | false => exact waitToPush_turns _ item timeout
          | true =>
              refine .inl ⟨⟨_, rfl, .notEnqueued _ item ?_⟩, ?_, ?_⟩
              · exact of_decide_eq_true (finite rfl)
              · exact fun _ => rfl
              · exact fun _ blocked => .inl blocked
      | dequeue timeout =>
          cases timedOut with
          | false => exact waitToPop_turns _ timeout
          | true =>
              exact .inl (pop_ends _ timeout fun _ => of_decide_eq_true (finite rfl))

/-- A call to add an item does not wait when there is room. -/
theorem enter_enqueue_of_room {self : SharedQueue α} (room : self.maxItems = 0 ∨ self.itemCount < self.maxItems) (item : α)
    (timeout : UInt64) : (monitor α).enter self (.enqueue item timeout) .called = self.push item := by
  change self.waitToPush item = self.push item
  rw [waitToPush, if_neg (by omega)]

theorem monitor_counts : (monitor α).Counts waitingCount := by
  intro self call entry condition possible inside
  have before := waitingCount_counted inside
  obtain ends | ⟨waits, -, -, -, counts⟩ := enter_turns self possible
  · obtain ⟨result, returns, -⟩ := ends.returns
    have same := ends.counts condition
    rw [returns, Outcome.waitsOn, one_none]
    omega
  · have more := counts condition
    rw [waits, Outcome.waitsOn]
    omega

theorem monitor_tells : (monitor α).Tells waitingCount Blocked := by
  constructor
  · intro self call entry condition possible waits
    obtain ends | ⟨waits', value, -, blocked, -⟩ := enter_turns self possible
    · obtain ⟨result, returns, -⟩ := ends.returns
      rw [returns] at waits
      cases waits
    · rw [waits'] at waits
      cases waits
      exact (blocked_congr value _).mpr blocked
  · intro self call entry condition possible blocked
    have before := (blocked_congr (value_counted self entry) condition).mpr blocked
    obtain ends | ⟨-, value, -, -, -⟩ := enter_turns self possible
    · exact ends.tells condition before
    · exact .inl ((blocked_congr value condition).mpr before)

theorem monitor_realizes : (monitor α).Realizes value Effect := by
  constructor
  · intro self call entry condition possible waits
    obtain ends | ⟨-, value, -, -, -⟩ := enter_turns self possible
    · obtain ⟨result, returns, -⟩ := ends.returns
      rw [returns] at waits
      cases waits
    · rw [value, value_counted]
  · intro self call entry result possible returns
    obtain ends | ⟨waits, -, -, -, -⟩ := enter_turns self possible
    · obtain ⟨result', returns', effect⟩ := ends.returns
      rw [returns'] at returns
      cases returns
      rwa [value_counted] at effect
    · rw [waits] at returns
      cases returns

/-! ## Runs -/

section Runs

variable {ι : Type}

/-- The items that were put in, in the order in which the calls returned. -/
def enqueued : List (Return ι (Call α) (Result α)) → List α :=
  List.filterMap fun
    | ⟨_, .enqueue item _, .ok _⟩ => some item
    | _ => none

/-- The items that were taken out. -/
def dequeued : List (Return ι (Call α) (Result α)) → List α :=
  List.filterMap fun
    | ⟨_, .dequeue _, .ok item⟩ => item
    | _ => none

theorem enqueued_append (history history' : List (Return ι (Call α) (Result α))) :
    enqueued (history ++ history') = enqueued history ++ enqueued history' := List.filterMap_append

theorem dequeued_append (history history' : List (Return ι (Call α) (Result α))) :
    dequeued (history ++ history') = dequeued history ++ dequeued history' := List.filterMap_append

/-- Items come out in the order in which they went in, and there are never too many. -/
theorem ordered_of_legal {maxItems : Nat} {history : List (Return ι (Call α) (Result α))} {queue : Bounded α}
    (legal : Legal Effect ⟨maxItems, []⟩ history queue) :
    queue.maxItems = maxItems ∧ enqueued history = dequeued history ++ queue.items ∧
      (maxItems ≠ 0 → queue.items.length ≤ maxItems) := by
  induction legal with
  | nil => exact ⟨rfl, rfl, fun _ => Nat.zero_le _⟩
  | @snoc history queue next return_ _ takes ih =>
      obtain ⟨thread, call, result⟩ := return_
      obtain ⟨bound, ordered, inside⟩ := ih
      rw [enqueued_append, dequeued_append, ordered]
      dsimp only at takes
      cases takes with
      | @enqueued maxItems' items item timeout room =>
          cases bound
          refine ⟨rfl, ?_, ?_⟩
          · change dequeued history ++ items ++ [item] = dequeued history ++ [] ++ (items ++ [item])
            simp
          · intro bounded
            have all := inside bounded
            dsimp only at bounded all ⊢
            rw [List.length_append, List.length_singleton]
            omega
      | notEnqueued =>
          refine ⟨bound, ?_, inside⟩
          change dequeued history ++ _ ++ [] = dequeued history ++ [] ++ _
          simp
      | dequeued maxItems' item items timeout =>
          refine ⟨bound, ?_, ?_⟩
          · change dequeued history ++ (item :: items) ++ [] = dequeued history ++ [item] ++ items
            simp
          · intro bounded
            have all := inside bounded
            dsimp only [List.length_cons] at all ⊢
            omega
      | notDequeued =>
          refine ⟨bound, ?_, inside⟩
          change dequeued history ++ [] ++ [] = dequeued history ++ [] ++ []
          rfl

variable [DecidableEq ι]

/-- What the history of a run says about the queue. -/
theorem run_ordered (maxItems : Nat) (steps : List (Step ι (Call α) Empty)) :
    let state := run (monitor α) .history (State.start (create maxItems) []) steps
    state.shared.maxItems = maxItems ∧ enqueued state.memory = dequeued state.memory ++ state.shared.items ∧
      (maxItems ≠ 0 → state.shared.items.length ≤ maxItems) :=
  ordered_of_legal (run_legal monitor_realizes (create maxItems) steps)

/-- However many threads use a queue, whatever they call, and whenever they get the mutex and are woken up, their calls
    have the results of a bounded queue that is used by one call after the other, in the order in which they return:
    what was taken out is the beginning of what was put in, and the rest is still there. -/
theorem run_fifo (maxItems : Nat) (steps : List (Step ι (Call α) Empty)) :
    let state := run (monitor α) .history (State.start (create maxItems) []) steps
    Legal Effect ⟨maxItems, []⟩ state.memory ⟨maxItems, state.shared.items⟩ ∧
      enqueued state.memory = dequeued state.memory ++ state.shared.items ∧
      (maxItems ≠ 0 → state.shared.items.length ≤ maxItems) := by
  intro state
  have legal := run_legal monitor_realizes (create maxItems) steps
  obtain ⟨bound, ordered⟩ := run_ordered maxItems steps
  refine ⟨?_, ordered⟩
  have same : state.shared.value = ⟨maxItems, state.shared.items⟩ := congrArg (Bounded.mk · state.shared.items) bound
  rw [← same]
  exact legal

/-- No thread sleeps while it could go on: one that sleeps in a call for an item sleeps in front of an empty queue, and
    one that sleeps in a call to add an item in front of a full one, so that never threads of both kinds sleep. The
    counters have the numbers of the threads that wait or have not got the mutex again since they did. -/
theorem run_awake (maxItems : Nat) (steps : List (Step ι (Call α) Empty)) :
    let state := run (monitor α) .history (State.start (create maxItems) []) steps
    (∀ thread timeout condition, state.threads thread = .asleep (.dequeue timeout) condition → state.shared.items = []) ∧
      (∀ thread item timeout condition, state.threads thread = .asleep (.enqueue item timeout) condition →
        maxItems ≠ 0 ∧ state.shared.items.length = maxItems) ∧
      ∀ condition, ∃ waiters : Finset ι,
        (∀ thread, thread ∈ waiters ↔ (state.threads thread).waitsOn = some condition) ∧
          waiters.card = waitingCount condition state.shared := by
  intro state
  have none_ (condition : Condition) : waitingCount condition (create maxItems : SharedQueue α) = 0 := by
    cases condition <;> rfl
  obtain ⟨possible, counted, justified⟩ := run_justified monitor_counts monitor_tells none_ steps
  obtain ⟨bound, -, inside⟩ := run_ordered maxItems steps
  have waits {thread : ι} {call : Call α} {condition : Condition}
      (sleeps : state.threads thread = .asleep call condition) : Blocked call.condition state.shared := by
    have may := possible thread
    rw [sleeps] at may
    obtain ⟨shared, entry, ends⟩ := may
    rw [← condition_of_waits ends]
    exact justified thread call condition sleeps
  refine ⟨?_, ?_, counted⟩
  · intro thread timeout condition sleeps
    exact List.length_eq_zero_iff.mp (waits sleeps)
  · intro thread item timeout condition sleeps
    obtain ⟨bounded, full⟩ := waits sleeps
    rw [bound] at bounded full
    exact ⟨bounded, Nat.le_antisymm (inside bounded) full⟩

end Runs

end SharedQueue

end GoldenGate
