import GoldenGate.Common.SharedQueue
import GoldenGate.Lib.Tokens

/-! # The messages of a loop

The embedding of the messages of `gg_loop_base.c`. Other threads post messages to a loop, or have it invoke a function
for them and wait for the result. The items that carry the messages come from a pool and go back to it. A post ends with
the wakeup of the loop, which may fail when the message is already queued. A thread here is anything that calls: what a
handler posts while it runs counts as one of its own.
-/

namespace GoldenGate.LoopBase

open Monitors

/-! ## The objects that the threads share -/

/-- The pool, the queue, whether the mutex of `InvokeSync` is locked, and the value of its semaphore. -/
structure Objects where
  messageItemPool : SharedQueue Nat
  messageQueue : SharedQueue Nat
  invokeMutexLocked : Bool
  resultSemaphore : Nat
  deriving Repr, DecidableEq

inductive Condition where
  | pool (condition : SharedQueue.Condition)
  | queue (condition : SharedQueue.Condition)
  | mutex
  | semaphore
  deriving Repr, DecidableEq

/-- The calls of shared queues, `GG_Mutex_Lock` and `GG_Mutex_Unlock` of the mutex, and `GG_Semaphore_Acquire` and
    `GG_Semaphore_Release` of the semaphore. -/
inductive Call where
  | pool (call : SharedQueue.Call Nat)
  | queue (call : SharedQueue.Call Nat)
  | lock
  | unlock
  | acquire
  | release
  deriving Repr, DecidableEq

/-- The calls that wait for something. An item is queued with a timeout of zero. -/
def Call.waits : Call → Bool
  | .pool (.enqueue _ _) => false
  | .queue (.enqueue _ _) => false
  | .unlock => false
  | .release => false
  | _ => true

def Condition.ofPool : Condition → Option SharedQueue.Condition
  | pool condition => some condition
  | _ => none

def Condition.ofQueue : Condition → Option SharedQueue.Condition
  | queue condition => some condition
  | _ => none

def monitor : Monitor Objects Call Condition (SharedQueue.Result Nat) where
  enter
    | self, .pool call, entry =>
        ((SharedQueue.monitor Nat).enter self.messageItemPool call (entry.within Condition.ofPool)).within
          (fun pool => { self with messageItemPool := pool }) .pool
    | self, .queue call, entry =>
        ((SharedQueue.monitor Nat).enter self.messageQueue call (entry.within Condition.ofQueue)).within
          (fun queue => { self with messageQueue := queue }) .queue
    | self, .lock, _ =>
        if self.invokeMutexLocked then ⟨self, [], .waits .mutex⟩
        else ⟨{ self with invokeMutexLocked := true }, [], .returns (.ok none)⟩
    | self, .unlock, _ => ⟨{ self with invokeMutexLocked := false }, [.mutex], .returns (.ok none)⟩
    | self, .acquire, _ =>
        if self.resultSemaphore = 0 then ⟨self, [], .waits .semaphore⟩
        else ⟨{ self with resultSemaphore := self.resultSemaphore - 1 }, [], .returns (.ok none)⟩
    | self, .release, _ =>
        ⟨{ self with resultSemaphore := self.resultSemaphore + 1 }, [.semaphore], .returns (.ok none)⟩
  timed
    | .pool call | .queue call => (SharedQueue.monitor Nat).timed call
    | _ => false

/-- The objects of `GG_LoopBase_Init`: the pool is stuffed with the items. -/
def init (length : Nat) : Objects where
  messageItemPool := (List.range length).foldl (fun pool item => (pool.stuff item).1) (.create length)
  messageQueue := .create length
  invokeMutexLocked := false
  resultSemaphore := 0

/-! ## What the threads do -/

/-- A message is the one of `InvokeSync`, which the loop has only once, or another one. -/
inductive Message where
  | invokeSync
  | other (message : Nat)
  deriving Repr, DecidableEq

/-- Where a thread is, with the function that it invokes if it posts the message of `InvokeSync`. -/
inductive Phase (Φ : Type) where
  | idle
  /-- In `InvokeSync`, before the mutex is locked. -/
  | lock (function : Φ)
  /-- In `PostMessage`, for an item from the pool. -/
  | take (message : Message) (timeout : UInt64) (sync : Option Φ)
  /-- In `PostMessage`, with the message in its item. -/
  | put (message : Message) (item : Nat) (sync : Option Φ)
  /-- In `PostMessage`, when the item could not be queued. -/
  | giveBack (item : Nat) (sync : Option Φ)
  /-- In `GG_Loop_PostMessage`, with the message in the queue, for `GG_Loop_SendWakeup`. -/
  | wakeup (sync : Option Φ)
  /-- In `InvokeSync`, for the result. -/
  | acquire (function : Φ)
  /-- In `InvokeSync`, with the result if there is one. -/
  | unlock (function : Φ) (result : Option Int)
  /-- In `ProcessMessage`, for a message. -/
  | process (timeout : UInt64)
  /-- In `ProcessMessage`, with a message. -/
  | handle (item : Nat) (message : Message)
  /-- In `ProcessMessage`, when the message of `InvokeSync` is handled. -/
  | release (item : Nat)
  /-- In `ProcessMessage`, when the message is released. -/
  | recycle (item : Nat)
  deriving Repr, DecidableEq

/-- What a thread begins to do, the handling of a message, and how a wakeup ends. -/
inductive Action (Φ : Type) where
  | postMessage (message : Nat) (timeout : UInt64)
  | invokeSync (function : Φ)
  | processMessage (timeout : UInt64)
  | handle
  | sendWakeup (error : Option Error)
  deriving Repr, DecidableEq

/-- The thread of a loop, what functions do and return, and what the handlers of other messages do, on a world of any
    kind. A function comes with its argument. -/
structure Program (ι Φ ω : Type) where
  loopThread : ι
  function : Φ → ω → ω × Int
  handler : Nat → ω → ω

/-- `GG_LoopBase` without the objects, the world, and what happened: the messages that were posted and handled, the
    functions that were invoked by the message of `InvokeSync` with their results, those of the calls of `InvokeSync`
    that have returned, and the functions of those that failed with their message queued. -/
structure Memory (ι Φ ω : Type) where
  phases : ι → Phase Φ
  messageItems : Nat → Option Message
  invokeFunction : Option Φ
  functionResult : Int
  world : ω
  posted : List Message
  handled : List Message
  invoked : List (Φ × Int)
  results : List (Φ × Int)
  failures : List Error
  notWoken : List Φ

namespace Phase

variable {Φ : Type}

/-- The call that a thread makes next. -/
def next : Phase Φ → Option Call
  | idle => none
  | lock _ => some .lock
  | take _ timeout _ => some (.pool (.dequeue timeout))
  | put _ item _ => some (.queue (.enqueue item 0))
  | giveBack item _ => some (.pool (.enqueue item 0))
  | wakeup _ => none
  | acquire _ => some .acquire
  | unlock _ _ => some .unlock
  | process timeout => some (.queue (.dequeue timeout))
  | handle _ _ => none
  | release _ => some .release
  | recycle item => some (.pool (.enqueue item 0))

/-- The item that a thread has. -/
def held : Phase Φ → Option Nat
  | put _ item _ => some item
  | giveBack item _ => some item
  | handle item _ => some item
  | release item => some item
  | recycle item => some item
  | _ => none

/-- The message that a thread is about to handle. -/
def message : Phase Φ → List Message
  | handle _ message => [message]
  | _ => []

/-- The thread has the mutex of `InvokeSync`. -/
def hasMutex : Phase Φ → Bool
  | take _ _ (some _) => true
  | put _ _ (some _) => true
  | giveBack _ (some _) => true
  | wakeup (some _) => true
  | acquire _ => true
  | unlock _ _ => true
  | _ => false

/-- Where a thread goes that has posted its message, and woken the loop up. -/
def posted : Option Φ → Phase Φ
  | none => idle
  | some function => acquire function

/-- Where a thread goes whose post has failed. -/
def failed : Option Φ → Phase Φ
  | none => idle
  | some function => unlock function none

end Phase

section Client

variable {ι Φ ω : Type} [DecidableEq ι]

def Memory.goto (self : Memory ι Φ ω) (thread : ι) (phase : Phase Φ) : Memory ι Φ ω :=
  { self with phases := Function.update self.phases thread phase }

/-- `GG_LoopMessage_Handle`. -/
def handle (program : Program ι Φ ω) (self : Memory ι Φ ω) (thread : ι) (item : Nat) : Message → Memory ι Φ ω
  | .other message =>
      { self with
        world := program.handler message self.world
        messageItems := Function.update self.messageItems item none
        handled := self.handled ++ [Message.other message] }.goto thread (.recycle item)
  | .invokeSync =>
      match self.invokeFunction with
      | none => self.goto thread (.release item)
      | some function =>
          let (world, result) := program.function function self.world
          { self with
            world := world
            functionResult := result
            handled := self.handled ++ [Message.invokeSync]
            invoked := self.invoked ++ [(function, result)] }.goto thread (.release item)

/-- The beginnings of `GG_Loop_PostMessage`, `GG_LoopBase_InvokeSync` and `GG_LoopBase_ProcessMessage`, and the end of a
    post. On the thread of the loop, a function is invoked directly. -/
def act (program : Program ι Φ ω) (self : Memory ι Φ ω) (thread : ι) (action : Action Φ) : Memory ι Φ ω :=
  match self.phases thread, action with
  | .idle, .postMessage message timeout => self.goto thread (.take (.other message) timeout none)
  | .idle, .invokeSync function =>
      if thread = program.loopThread then { self with world := (program.function function self.world).1 }
      else self.goto thread (.lock function)
  | .idle, .processMessage timeout =>
      if thread = program.loopThread then self.goto thread (.process timeout) else self
  | .handle item message, .handle => handle program self thread item message
  | .wakeup sync, .sendWakeup none => self.goto thread (.posted sync)
  | .wakeup sync, .sendWakeup (some error) =>
      { self with
        failures := self.failures ++ [error]
        notWoken := self.notWoken ++ sync.toList }.goto thread (.failed sync)
  | _, _ => self

/-- What a thread makes of the result of its call. -/
def returned (self : Memory ι Φ ω) (thread : ι) (result : SharedQueue.Result Nat) : Memory ι Φ ω :=
  match self.phases thread, result with
  | .lock function, _ =>
      { self with invokeFunction := some function }.goto thread (.take .invokeSync timeoutInfinite (some function))
  | .take message _ sync, .ok (some item) =>
      { self with messageItems := Function.update self.messageItems item (some message) }.goto thread
        (.put message item sync)
  | .take _ _ sync, .error error => { self with failures := self.failures ++ [error] }.goto thread (.failed sync)
  | .put message _ sync, .ok _ =>
      { self with posted := self.posted ++ [message] }.goto thread (.wakeup sync)
  | .put _ item sync, .error error =>
      { self with failures := self.failures ++ [error] }.goto thread (.giveBack item sync)
  | .giveBack _ sync, _ => self.goto thread (.failed sync)
  | .acquire function, _ => self.goto thread (.unlock function (some self.functionResult))
  | .unlock function (some result), _ =>
      { self with results := self.results ++ [(function, result)] }.goto thread .idle
  | .unlock _ none, _ => self.goto thread .idle
  | .process _, .ok (some item) =>
      match self.messageItems item with
      | some message => self.goto thread (.handle item message)
      | none => self.goto thread .idle
  | .process _, .error _ => self.goto thread .idle
  | .release item, _ =>
      { self with messageItems := Function.update self.messageItems item none }.goto thread (.recycle item)
  | .recycle _, _ => self.goto thread .idle
  | _, _ => self

def client (program : Program ι Φ ω) : Client ι Call (SharedQueue.Result Nat) (Action Φ) (Memory ι Φ ω) where
  calls self thread call := (self.phases thread).next = some call
  act := act program
  returned self thread _ result := returned self thread result

omit [DecidableEq ι] in
def Memory.start (world : ω) : Memory ι Φ ω := ⟨fun _ => .idle, fun _ => none, none, 0, world, [], [], [], [], [], []⟩

end Client

/-! ## The effects of the calls -/

/-- What the objects hold. -/
structure Values where
  pool : SharedQueue.Bounded Nat
  queue : SharedQueue.Bounded Nat
  locked : Bool
  semaphore : Nat
  deriving Repr, DecidableEq

def Objects.value (self : Objects) : Values :=
  ⟨self.messageItemPool.value, self.messageQueue.value, self.invokeMutexLocked, self.resultSemaphore⟩

inductive Effect : Values → Call → SharedQueue.Result Nat → Values → Prop where
  | pool {values : Values} {call : SharedQueue.Call Nat} {result : SharedQueue.Result Nat} {after : SharedQueue.Bounded Nat}
      (effect : SharedQueue.Effect values.pool call result after) :
      Effect values (.pool call) result { values with pool := after }
  | queue {values : Values} {call : SharedQueue.Call Nat} {result : SharedQueue.Result Nat} {after : SharedQueue.Bounded Nat}
      (effect : SharedQueue.Effect values.queue call result after) :
      Effect values (.queue call) result { values with queue := after }
  | lock {values : Values} (free : values.locked = false) : Effect values .lock (.ok none) { values with locked := true }
  | unlock (values : Values) : Effect values .unlock (.ok none) { values with locked := false }
  | acquire {values : Values} (positive : values.semaphore ≠ 0) :
      Effect values .acquire (.ok none) { values with semaphore := values.semaphore - 1 }
  | release (values : Values) : Effect values .release (.ok none) { values with semaphore := values.semaphore + 1 }

theorem enter_pool (self : Objects) (call : SharedQueue.Call Nat) (entry : Entry Condition) :
    monitor.enter self (.pool call) entry =
      ((SharedQueue.monitor Nat).enter self.messageItemPool call (entry.within Condition.ofPool)).within
        (fun pool => { self with messageItemPool := pool }) .pool := rfl

theorem enter_queue (self : Objects) (call : SharedQueue.Call Nat) (entry : Entry Condition) :
    monitor.enter self (.queue call) entry =
      ((SharedQueue.monitor Nat).enter self.messageQueue call (entry.within Condition.ofQueue)).within
        (fun queue => { self with messageQueue := queue }) .queue := rfl

theorem possible_pool {call : SharedQueue.Call Nat} {entry : Entry Condition} (possible : entry.Possible monitor (.pool call)) :
    (entry.within Condition.ofPool).Possible (SharedQueue.monitor Nat) call :=
  possible.within (fun self entry => enter_pool self call entry) (fun _ => rfl) rfl

theorem possible_queue {call : SharedQueue.Call Nat} {entry : Entry Condition}
    (possible : entry.Possible monitor (.queue call)) :
    (entry.within Condition.ofQueue).Possible (SharedQueue.monitor Nat) call :=
  possible.within (fun self entry => enter_queue self call entry) (fun _ => rfl) rfl

theorem monitor_realizes : monitor.Realizes Objects.value Effect := by
  constructor
  · intro self call entry condition possible waits
    cases call with
    | pool call =>
        obtain ⟨condition', ends, rfl⟩ := Outcome.of_within_waits waits
        exact congrArg (Values.mk · _ _ _) (SharedQueue.monitor_realizes.waits _ _ _ _ (possible_pool possible) ends)
    | queue call =>
        obtain ⟨condition', ends, rfl⟩ := Outcome.of_within_waits waits
        exact congrArg (Values.mk _ · _ _) (SharedQueue.monitor_realizes.waits _ _ _ _ (possible_queue possible) ends)
    | lock =>
        obtain ⟨pool, queue, locked, semaphore⟩ := self
        cases locked with
        | false => cases waits
        | true => rfl
    | acquire =>
        obtain ⟨pool, queue, locked, semaphore⟩ := self
        cases semaphore with
        | zero => rfl
        | succ => cases waits
    | unlock | release => cases waits
  · intro self call entry result possible returns
    cases call with
    | pool call =>
        have ends := Outcome.of_within_returns returns
        exact .pool (SharedQueue.monitor_realizes.returns _ _ _ _ (possible_pool possible) ends)
    | queue call =>
        have ends := Outcome.of_within_returns returns
        exact .queue (SharedQueue.monitor_realizes.returns _ _ _ _ (possible_queue possible) ends)
    | lock =>
        obtain ⟨pool, queue, locked, semaphore⟩ := self
        cases locked with
        | false =>
            cases returns
            exact .lock rfl
        | true => cases returns
    | acquire =>
        obtain ⟨pool, queue, locked, semaphore⟩ := self
        cases semaphore with
        | zero => cases returns
        | succ semaphore =>
            cases returns
            exact .acquire (Nat.succ_ne_zero semaphore)
    | unlock =>
        cases returns
        exact .unlock _
    | release =>
        cases returns
        exact .release _

end GoldenGate.LoopBase
